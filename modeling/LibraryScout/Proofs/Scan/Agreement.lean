import LibraryScout.Proofs.Assembly.Document
import LibraryScout.Proofs.Scan.Accounting
import LibraryScout.Proofs.Source.Kind

/-!
Contract: a file that is scanned and the same file handed in as a document.

Owns:
- `HasText`, the text of a file by its key below a scanned directory;
- `HandedInAs`, what comes of a document that is handed in when its extraction is already known;
- that every entry of a scan is what handing in its file comes to, under the key alone or below any
  directories.

A scan looks at the last name of a path and an assembler at the whole path, and each looks up the
extractor by itself; that both find the same one is a fact about the last point of a path.
-/

namespace LibraryScout.Source

/-- A path of names has the kind of its last name. -/
theorem classify_joined {names : List String} (someNames : names ≠ []) :
    classify (Text.joined "/" names) = classify (names.getLast?.getD "") := by
  induction names with
  | nil => exact absurd rfl someNames
  | cons name later inductionHypothesis =>
      cases later with
      | nil =>
          rw [Text.joined, String.intercalate_singleton]
          rfl
      | cons next others =>
          have laterSame := inductionHypothesis (List.cons_ne_nil next others)
          rw [Text.joined] at laterSame ⊢
          rw [String.intercalate_cons_cons, classify_below, laterSame, List.getLast?_cons_cons]

end LibraryScout.Source

namespace LibraryScout.Scan

open LibraryScout.Assembly LibraryScout.Source

/-! ## Files by their keys -/

/-- Under a key below a directory of a tree there is a file with a text. -/
def HasText (node : Files.Node) (root : List String) (key text : String) : Prop :=
  ∃ names, (∀ name ∈ names, Files.IsPlain name) ∧ Text.joined "/" names = key ∧
    node.at? (root ++ names) = some (.file text.toUTF8)

theorem HasText.unique {node : Files.Node} {root : List String} {held : Files.Node}
    (leads : node.at? root = some held) (isDirectory : held.isDirectory = true)
    {key first second : String} (hasFirst : HasText node root key first)
    (hasSecond : HasText node root key second) : first = second := by
  obtain ⟨firstNames, firstPlain, firstKey, firstFile⟩ := hasFirst
  obtain ⟨secondNames, secondPlain, secondKey, secondFile⟩ := hasSecond
  have notHere {names : List String} {contents : Files.Contents}
      (isFile : node.at? (root ++ names) = some (.file contents)) : names ≠ [] := by
    rintro rfl
    rw [List.append_nil, leads] at isFile
    rw [Option.some.inj isFile] at isDirectory
    cases isDirectory
  have sameNames : firstNames = secondNames := by
    have sameKey : keyBelow root (root ++ firstNames) = keyBelow root (root ++ secondNames) := by
      rw [keyBelow, keyBelow, List.drop_left, List.drop_left, firstKey, secondKey]
    exact eq_of_keyBelow_eq (notHere firstFile) (notHere secondFile) firstPlain secondPlain sameKey
  rw [sameNames, secondFile, Option.some.injEq, Files.Node.file.injEq,
    Files.Contents.mk.injEq] at firstFile
  exact String.toByteArray_inj.1 firstFile.1.symm

/-- What an entry of a scan is about: a file of a kind with an extractor, and its text. -/
theorem Accounts.exists_file {store : Files.Store} {registry : Registry} {limits : Limits}
    {root : List String} {held : Files.Node} {result : Result} {events : List Log.Event}
    (accounts : Accounts root registry limits (walk limits.reach store.root root) result events)
    (wellFormed : store.root.WellFormed) (leads : store.root.at? root = some held)
    (isDirectory : held.isDirectory = true) {key : String} {extraction : Extraction}
    (kept : (key, extraction) ∈ result.files) :
    ∃ text extractor, HasText store.root root key text ∧
      registry.get? (classify key) = some extractor ∧ extraction = (extractor.extract text).1 := by
  have isKey : key ∈ result.files.map Prod.fst := List.mem_map_of_mem kept
  obtain ⟨file, taken, notSkipped, rfl⟩ := accounts.nothingElse key isKey
  obtain ⟨isSkipped, _⟩ | ⟨_, text, sameBytes, present⟩ := accounts.handled file taken
  · exact absurd isSkipped notSkipped
  have member := List.mem_of_mem_take taken
  obtain ⟨names, someNames, place, plain, leadsOn⟩ :=
    below_of_mem_eligible wellFormed leads isDirectory member
  have keyNames : file.key root = Text.joined "/" names := by
    rw [Eligible.key, keyBelow, place, List.drop_left]
  obtain ⟨item, _, isEligible⟩ := List.mem_filterMap.1 member
  have registered := (Eligible.of?_eq_some_iff.1 isEligible).2
  have lastName : file.path.getLast?.getD "" = names.getLast?.getD "" := by
    obtain ⟨before, last, rfl⟩ := (List.eq_nil_or_concat' names).resolve_left someNames
    rw [place, ← List.append_assoc, List.getLast?_concat, List.getLast?_concat]
  refine ⟨text, file.extractor, ⟨names, plain, keyNames.symm, ?_⟩, ?_, ?_⟩
  · rw [leadsOn, sameBytes]
  · rw [keyNames, classify_joined someNames, ← lastName]
    exact registered
  · exact congrArg Prod.snd (List.inj_on_of_nodup_map accounts.keysDistinct kept present rfl)

/-! ## Documents whose extraction is known -/

/-- An assembler with the extractors of all supported kinds whose resolver keeps its calls. -/
def recording {σ : Type} (resolve : Resolver σ) : Assembler (σ × List Call) :=
  ⟨.defaults, resolve.recorded⟩

/-- What comes of a document that is handed in, whatever maps packages to modules, in terms of the
extraction of its text. -/
structure HandedInAs (document : Document) (extraction : Extraction) : Prop where
  /-- Where no packages have to be mapped the extraction is the outcome, and nothing is asked. -/
  settled : document.kind ≠ .java ∨ extraction.context.identifiers = [] →
    ∀ (σ : Type) (resolve : Resolver σ) (state : σ) (calls : List Call),
      let ran := (recording resolve).extractContext document.fileName document.text (state, calls)
      ran.value = .ok (.extracted extraction) ∧ ran.state = (state, calls)
  /-- Packages of a Java source are asked for in one call, which decides. -/
  mapped : document.kind = .java → extraction.context.identifiers ≠ [] →
    ∀ (σ : Type) (resolve : Resolver σ) (state : σ) (calls : List Call),
      let asked := resolve extraction.language extraction.context.identifiers state
      let ran := (recording resolve).extractContext document.fileName document.text (state, calls)
      ran.value = (answered extraction asked.value).map Outcome.extracted ∧
        ran.state = (asked.state, calls ++ [⟨extraction.language, extraction.context.identifiers⟩])

theorem handedInAs_of_registered {document : Document} {extractor : Extractor}
    (registered : Registry.defaults.get? document.kind = some extractor) :
    HandedInAs document (extractor.extract document.text).1 := by
  constructor
  · intro nothingToMap σ resolve state calls
    have asksNothing : ¬ (document.kind = .java ∧
        (extractor.extract document.text).1.context.identifiers ≠ []) :=
      fun both => nothingToMap.elim (fun other => other both.1) fun empty => both.2 empty
    have silent : request? (recording resolve).registry document = none := by
      simp only [request?, recording, registered, if_neg asksNothing]
    have ran := extractContext_of_silent (recording resolve) silent (.ok []) (state, calls)
    simpa only [outcomeWith, recording, registered, if_neg asksNothing] using ran
  · intro java packages σ resolve state calls
    have both : document.kind = .java ∧
        (extractor.extract document.text).1.context.identifiers ≠ [] := ⟨java, packages⟩
    have asks : request? (recording resolve).registry document =
        some (.ofExtraction (extractor.extract document.text).1) := by
      simp only [request?, recording, registered, if_pos both]
    have ran := extractContext_of_asking (recording resolve) asks (state, calls)
    simpa only [outcomeWith, recording, registered, if_pos both, Call.ofExtraction,
      Resolver.recorded_apply] using ran

/-! ## Agreement -/

/-- A scan with the extractors of all supported kinds agrees with handing in its files one by one.
Every entry is about the one text under its key; that text, handed in under the key, alone or below
any directories, comes to the entry's extraction. And directories never change the kind of a file,
whatever their names. -/
theorem scan_agrees_with_documents {store : Files.Store} {limits : Limits} {path : String}
    {root : List String} {held : Files.Node} {result : Result} {events : List Log.Event}
    (wellFormed : store.root.WellFormed) (finds : store.find path = .ok (root, held))
    (isDirectory : held.isDirectory = true)
    (scanned : scan store .defaults limits path = (.ok result, events)) :
    (∀ entry ∈ result.files, ∃ text, HasText store.root root entry.1 text) ∧
      (∀ entry ∈ result.files, ∀ text, HasText store.root root entry.1 text →
        HandedInAs ⟨entry.1, text⟩ entry.2 ∧
          ∀ above, HandedInAs ⟨above ++ "/" ++ entry.1, text⟩ entry.2) ∧
      ∀ above name : String, classify (above ++ "/" ++ name) = classify name := by
  have leads := Files.Store.at?_of_find finds
  have accounts := accounts_scanAt wellFormed leads isDirectory .defaults limits
  obtain rfl : (scanAt store.root root .defaults limits).1 = result := by
    rw [scan_eq finds isDirectory, Prod.mk.injEq, Except.ok.injEq] at scanned
    exact scanned.1
  refine ⟨?_, ?_, classify_below⟩
  · intro entry kept
    obtain ⟨text, _, hasText, _⟩ := accounts.exists_file wellFormed leads isDirectory kept
    exact ⟨text, hasText⟩
  · intro entry kept text hasText
    obtain ⟨own, extractor, hasOwn, registered, isExtraction⟩ :=
      accounts.exists_file wellFormed leads isDirectory kept
    obtain rfl : own = text := HasText.unique leads isDirectory hasOwn hasText
    have handedIn (fileName : String) (sameKind : classify fileName = classify entry.1) :
        HandedInAs ⟨fileName, own⟩ entry.2 := by
      rw [isExtraction]
      refine handedInAs_of_registered ?_
      rw [Document.kind, sameKind]
      exact registered
    exact ⟨handedIn entry.1 rfl, fun above => handedIn _ (classify_below above entry.1)⟩

/-- A Java source in a directory that is named like a Python source, scanned and then handed in
from a directory that is named like a JavaScript source. -/
theorem scan_agrees_with_documents_in_named_directories :
    let store : Files.Store := ⟨Files.Node.emptyDirectory.put ["work", "lib.py", "A.java"]
      (.file "import a.b.C;".toUTF8), []⟩
    let extraction : Extraction := ⟨⟨["a.b"]⟩, .java, []⟩
    ("lib.py/A.java", extraction) ∈ (scanAt store.root ["work"] .defaults .usual).1.files ∧
      HandedInAs ⟨"web.js/lib.py/A.java", "import a.b.C;"⟩ extraction := by
  intro store extraction
  have wellFormed : store.root.WellFormed :=
    Files.Node.wellFormed_emptyDirectory.put (by decide +kernel) (.file _)
  have starts : store.start "/work" = [] := ite_self []
  have resolves : store.resolve "/work" = .ok ["work"] := by
    rw [Files.Store.resolve, starts]
    rfl
  have finds : store.find "/work" = .ok (["work"], .directory [("lib.py", .directory
      [("A.java", .file "import a.b.C;".toUTF8)])]) := by
    rw [Files.Store.find, resolves]
    rfl
  have kept : ("lib.py/A.java", extraction) ∈
      (scanAt store.root ["work"] .defaults .usual).1.files := by
    decide +kernel
  have hasText : HasText store.root ["work"] "lib.py/A.java" "import a.b.C;" :=
    ⟨["lib.py", "A.java"], by decide, rfl, rfl⟩
  obtain ⟨_, agrees, _⟩ := scan_agrees_with_documents wellFormed finds rfl (scan_eq finds rfl _ _)
  exact ⟨kept, (agrees _ kept _ hasText).2 "web.js"⟩

end LibraryScout.Scan
