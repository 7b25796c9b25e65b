import LibraryScout.Assembly.Assembler
import LibraryScout.Proofs.Imports.Java
import LibraryScout.Proofs.Imports.JavaScript
import LibraryScout.Proofs.Imports.Python
import LibraryScout.Proofs.Manifest.Pom
import LibraryScout.Proofs.Manifest.Requirements

/-!
Contract: what can be relied on in every extraction, whatever the text.

Owns:
- `HasForm`, the characters of identifiers of each kind;
- `Sound`, the properties of an extraction of a kind from a text;
- that the extractor of every supported kind only makes sound extractions, and that mapping the
  packages of a Java source to modules leaves no identifier empty or repeated.

Each kind's own scan is dealt with beside its extractor; here the results meet.
-/

namespace LibraryScout.Source

open LibraryScout.Assembly LibraryScout.Text

/-- What an identifier of a kind is made of. -/
def HasForm (kind : Kind) (identifier : String) : Prop :=
  match kind with
  | .java => ∀ character ∈ identifier.toList, isBlank character = false ∧ character ≠ ';'
  | .javaScript =>
      (∃ first ∈ identifier.toList.head?, first.isAlphanum = true ∨ first = '@') ∧
        ∀ character ∈ identifier.toList, character ≠ '"' ∧ character ≠ '\''
  | .python =>
      ∀ character ∈ identifier.toList, isBlank character = false ∧ character ∉ ['.', ',', '#']
  | .pomXml => Manifest.Pom.IsCoordinate identifier
  | .requirementsTxt => ∀ character ∈ identifier.toList, isWord character = true
  | .packageJson | .unsupported => True

/-- The properties of an extraction of a kind from a text. -/
structure Sound (kind : Kind) (text : String) (extraction : Extraction) : Prop where
  language : kind.language? = some extraction.language
  nonempty : "" ∉ extraction.context.identifiers
  distinct : kind ∈ [.java, .javaScript, .python, .packageJson] →
    extraction.context.identifiers.Nodup
  warnings : extraction.warnings =
    if kind = .java ∧ extraction.context.identifiers = [] then [.noImportStatements] else []
  form : ∀ identifier ∈ extraction.context.identifiers, HasForm kind identifier
  inText : kind ∈ [.java, .javaScript, .python, .requirementsTxt] →
    ∀ identifier ∈ extraction.context.identifiers, identifier.toList <:+: text.toList

theorem Context.empty_notMem_unique (identifiers : List String) :
    "" ∉ (Context.unique identifiers).identifiers :=
  fun member => (Context.mem_unique.1 member).2 rfl

theorem Context.empty_notMem_ofList (identifiers : List String) :
    "" ∉ (Context.ofList identifiers).identifiers :=
  fun member => (Context.mem_ofList.1 member).2 rfl

/-! ## The extractors -/

theorem sound_java (text : String) : Sound .java text (Imports.Java.extract text).1 := by
  have extraction : (Imports.Java.extract text).1 =
      ⟨Imports.Java.packages text, .java,
        if (Imports.Java.packages text).identifiers = [] then [.noImportStatements] else []⟩ := by
    unfold Imports.Java.extract
    by_cases none : (Imports.Java.packages text).identifiers = []
    · have empty : Imports.Java.packages text = .empty := congrArg Context.mk none
      simp [empty, Context.isEmpty, Context.empty]
    · simp [none, Context.isEmpty, Extraction.ofContext]
  rw [extraction]
  exact
    { language := rfl
      nonempty := Context.empty_notMem_unique _
      distinct := fun _ => Context.nodup_unique _
      warnings := by simp
      form := fun _ member => (Imports.Java.form_of_mem_packages member).2
      inText := fun _ _ member => (Imports.Java.form_of_mem_packages member).1 }

theorem sound_javaScript (text : String) :
    Sound .javaScript text (Imports.JavaScript.extract text) where
  language := rfl
  nonempty := Context.empty_notMem_unique _
  distinct _ := Context.nodup_unique _
  warnings := rfl
  form identifier member := by
    obtain ⟨external, noQuote, -⟩ := Imports.JavaScript.form_of_mem_modules member
    refine ⟨?_, ?_⟩
    · cases chars : identifier.toList with
      | nil => simp [chars, Imports.JavaScript.isExternal] at external
      | cons first rest =>
          refine ⟨first, rfl, ?_⟩
          simpa [chars, Imports.JavaScript.isExternal] using external
    · intro character inside
      simpa [Imports.JavaScript.isQuote] using noQuote character inside
  inText _ identifier member := (Imports.JavaScript.form_of_mem_modules member).2.2

theorem sound_python (text : String) : Sound .python text (Imports.Python.extract text) where
  language := rfl
  nonempty := Context.empty_notMem_unique _
  distinct _ := Context.nodup_unique _
  warnings := rfl
  form _ member := (Imports.Python.form_of_mem_packages member).2
  inText _ _ member := (Imports.Python.form_of_mem_packages member).1

theorem sound_requirementsTxt (text : String) :
    Sound .requirementsTxt text (Manifest.Requirements.extract text) where
  language := rfl
  nonempty := Context.empty_notMem_ofList _
  distinct listed := absurd listed (by decide)
  warnings := rfl
  form _ member := (Manifest.Requirements.form_of_mem_extract member).2
  inText _ _ member := (Manifest.Requirements.form_of_mem_extract member).1

theorem sound_pomXml (text : String) : Sound .pomXml text (Manifest.Pom.extract text).1 := by
  obtain ⟨found, extraction⟩ : ∃ found : List String,
      (Manifest.Pom.extract text).1 = .ofContext (Context.ofList found) .java := by
    unfold Manifest.Pom.extract
    cases Manifest.Pom.read text with
    | ok found => exact ⟨found, rfl⟩
    | error fault => exact ⟨[], rfl⟩
  have form : ∀ identifier ∈ (Manifest.Pom.extract text).1.context.identifiers,
      HasForm .pomXml identifier := fun _ member => Manifest.Pom.form_of_mem_extract member
  rw [extraction] at form ⊢
  exact
    { language := rfl
      nonempty := Context.empty_notMem_ofList _
      distinct := fun listed => absurd listed (by decide)
      warnings := rfl
      form := form
      inText := fun listed => absurd listed (by decide) }

theorem sound_packageJson (text : String) :
    Sound .packageJson text (Manifest.Package.extract text).1 := by
  obtain ⟨found, extraction⟩ : ∃ found : List String,
      (Manifest.Package.extract text).1 = .ofContext (Context.unique found) .js := by
    unfold Manifest.Package.extract
    cases Json.parse text with
    | error fault => exact ⟨[], rfl⟩
    | ok manifest =>
        cases members : Manifest.Package.dependencies? manifest with
        | none => exact ⟨[], by simp [Manifest.Package.names, members]; rfl⟩
        | some found => exact ⟨found.map Prod.fst, by simp [Manifest.Package.names, members]⟩
  rw [extraction]
  exact
    { language := rfl
      nonempty := Context.empty_notMem_unique _
      distinct := fun _ => Context.nodup_unique _
      warnings := rfl
      form := fun _ _ => trivial
      inText := fun listed => absurd listed (by decide) }

/-! ## Modules -/

/-- Mapping either leaves an extraction without packages alone or puts modules in, each once. -/
theorem context_of_resolveModules {σ : Type} {assembler : Assembler σ} {fileName : String}
    {extraction resolved : Extraction} {state : σ}
    (mapped : (assembler.resolveModules fileName extraction state).value = .ok resolved) :
    resolved.context.identifiers = [] ∨ ∃ modules, resolved.context = Context.unique modules := by
  unfold Assembler.resolveModules at mapped
  by_cases empty : extraction.context.isEmpty = true
  · rw [if_pos empty] at mapped
    cases mapped
    exact Or.inl (by simpa [Context.isEmpty] using empty)
  · rw [if_neg empty, Run.bind_apply] at mapped
    right
    cases answer : (assembler.resolve extraction.language extraction.context.identifiers
        state).value with
    | error error =>
        rw [answer] at mapped
        cases mapped
    | ok modules =>
        rw [answer] at mapped
        cases mapped
        exact ⟨modules, rfl⟩

/-- No resolver can put an empty or a repeated module into the context of a Java source. -/
theorem java_context_of_extractContext {σ : Type} {assembler : Assembler σ}
    {fileName text : String} {state : σ} {extraction : Extraction}
    (java : classify fileName = .java)
    (ran : (assembler.extractContext fileName text state).value = .ok (.extracted extraction)) :
    "" ∉ extraction.context.identifiers ∧ extraction.context.identifiers.Nodup := by
  have mapped : extraction.context.identifiers = [] ∨
      ∃ modules, extraction.context = Context.unique modules := by
    unfold Assembler.extractContext at ran
    simp only [java] at ran
    cases found : assembler.registry.get? .java with
    | none =>
        rw [found] at ran
        cases ran
    | some extractor =>
        rw [found] at ran
        simp only [Kind.needsResolution, if_true, Run.bind_apply] at ran
        cases resolution : (assembler.resolveModules fileName (extractor.extract text).1
            state).value with
        | error failure =>
            simp [resolution, Run.pure] at ran
        | ok resolved =>
            obtain rfl : resolved = extraction := by
              simpa [resolution, Run.pure] using ran
            exact context_of_resolveModules resolution
  rcases mapped with empty | ⟨modules, unique⟩
  · rw [empty]
    exact ⟨List.not_mem_nil, List.nodup_nil⟩
  · rw [unique]
    exact ⟨Context.empty_notMem_unique modules, Context.nodup_unique modules⟩

/-! ## Every kind -/

/-- Every supported kind has an extractor, which only makes sound extractions; and the context of a
Java source holds no empty and no repeated identifier whatever its packages are mapped to. -/
theorem extractions_sound :
    (∀ kind : Kind, kind.isSupported = true →
      ∃ extractor, Registry.defaults.get? kind = some extractor ∧
        ∀ text, Sound kind text (extractor.extract text).1) ∧
    ∀ (σ : Type) (assembler : Assembler σ) (fileName text : String) (state : σ)
      (extraction : Extraction),
      classify fileName = .java →
        (assembler.extractContext fileName text state).value = .ok (.extracted extraction) →
          "" ∉ extraction.context.identifiers ∧ extraction.context.identifiers.Nodup := by
  refine ⟨?_, fun _ _ _ _ _ _ java ran => java_context_of_extractContext java ran⟩
  intro kind supported
  cases kind with
  | java => exact ⟨.java, rfl, sound_java⟩
  | javaScript => exact ⟨.javaScript, rfl, sound_javaScript⟩
  | python => exact ⟨.python, rfl, sound_python⟩
  | pomXml => exact ⟨.pomXml, rfl, sound_pomXml⟩
  | packageJson => exact ⟨.packageJson, rfl, sound_packageJson⟩
  | requirementsTxt => exact ⟨.requirementsTxt, rfl, sound_requirementsTxt⟩
  | unsupported => cases supported

/-- A resolver that answers every call with an empty and a repeated module. -/
def carelessResolver : Resolver Unit :=
  fun _ _ => Run.pure (.ok ["g:a", "", "g:a"])

/-- A Python source with a comment, and a Java source before a careless resolver. -/
theorem extractions_sound_careless :
    (∃ extractor, Registry.defaults.get? .python = some extractor ∧
      Sound .python "import a.b as c, d # e" (extractor.extract "import a.b as c, d # e").1) ∧
    ∃ extraction, ((⟨.defaults, carelessResolver⟩ : Assembler Unit).extractContext "A.java"
        "import a.b.C;" ()).value = .ok (.extracted extraction) ∧
      extraction.context.identifiers = ["g:a"] ∧ "" ∉ extraction.context.identifiers ∧
      extraction.context.identifiers.Nodup := by
  have java : classify "A.java" = .java := by decide +kernel
  have found : Registry.defaults.get? .java = some .java := rfl
  have read : (Extractor.java.extract "import a.b.C;").1 = ⟨⟨["a.b"]⟩, .java, []⟩ := by
    decide +kernel
  have ran : ((⟨.defaults, carelessResolver⟩ : Assembler Unit).extractContext "A.java"
      "import a.b.C;" ()).value = .ok (.extracted ⟨⟨["g:a"]⟩, .java, []⟩) := by
    simp [Assembler.extractContext, Assembler.resolveModules, java, found, read, Context.isEmpty,
      Kind.needsResolution, carelessResolver, Run.pure]
    rfl
  obtain ⟨extractor, registered, sound⟩ := extractions_sound.1 .python rfl
  exact ⟨⟨extractor, registered, sound _⟩, _, ran, rfl,
    extractions_sound.2 Unit _ _ _ () _ java ran⟩

end LibraryScout.Source
