import LibraryScout.Manifest.Package
import LibraryScout.Proofs.Json.Grammar
import LibraryScout.Proofs.Json.Literal
import LibraryScout.Proofs.Json.ReadBack
import Mathlib.Logic.Relation

/-!
Contract: the names that a package manifest lists.

Owns:
- `IsDependencies`, the members of the `dependencies` object of a manifest as it is written, with
  every repetition in its place;
- `Edit`, the changes of a manifest that leave its dependencies alone;
- that a text of the JSON grammar gives the names of these members and nothing is reported, that
  any other text gives none and is reported, and that no edit changes what a text gives.

Does not own: the grammar, and how values are read without their repetitions.
-/

namespace LibraryScout.Manifest.Package

open LibraryScout.Json LibraryScout.Source

/-! ## Manifests as they are written -/

/-- The last member that is named `dependencies` holds an object with these members. -/
def IsDependencies (manifest : Json) (inner : Members) : Prop :=
  ∃ before behind, manifest = .object (before ++ ("dependencies", .object inner) :: behind) ∧
    "dependencies" ∉ Members.names behind

/-- A member with another name is added somewhere, or a value among the dependencies is replaced. -/
inductive Edit : Json → Json → Prop where
  | other {before behind : Members} {name : String} {value : Json}
      (different : name ≠ "dependencies") :
      Edit (.object (before ++ behind)) (.object (before ++ (name, value) :: behind))
  | value {before behind first later : Members} {name : String} {old new : Json} :
      Edit
        (.object (before ++ ("dependencies", .object (first ++ (name, old) :: later)) :: behind))
        (.object (before ++ ("dependencies", .object (first ++ (name, new) :: later)) :: behind))

/-- The names that the members of a manifest list, by the last of them named `dependencies`. -/
def listed (members : Members) : Context :=
  match Members.last? "dependencies" members with
  | some (.object inner) => Context.unique (Members.names inner)
  | _ => .empty

/-! ## Repeated names -/

/-- Inserting a member appends its name, unless it is empty or known. -/
theorem unique_names_insert (members : Members) (name : String) (value : Json) :
    Context.unique (Members.names (Members.insert members name value)) =
      (Context.unique (Members.names members)).pushUnique name := by
  by_cases known : name ∈ Members.names members
  · have present : (Context.unique (Members.names members)).admits name = false := by
      by_cases empty : name = ""
      · simp [Context.admits, empty]
      · simp [Context.admits, Context.contains, Context.mem_unique, known]
    rw [Members.names_insert_of_mem known, Context.pushUnique, present]
    rfl
  · rw [Members.insert_of_notMem known, Members.names_append, Context.unique, List.foldl_append]
    rfl

theorem unique_names_foldl_insert (members pairs : Members) :
    Context.unique (Members.names
        (pairs.foldl (fun members pair => Members.insert members pair.1 pair.2) members)) =
      (Members.names pairs).foldl Context.pushUnique (Context.unique (Members.names members)) := by
  induction pairs generalizing members with
  | nil => rfl
  | cons pair later inductionHypothesis =>
      rw [List.foldl_cons, inductionHypothesis, unique_names_insert]
      rfl

theorem unique_names_ofPairs (pairs : Members) :
    Context.unique (Members.names (Members.ofPairs pairs)) =
      Context.unique (Members.names pairs) :=
  unique_names_foldl_insert [] pairs

theorem names_mergedMembers (members : Members) :
    Members.names (mergedMembers members) = Members.names members := by
  rw [mergedMembers_eq, Members.names, List.map_map]
  rfl

theorem last?_mergedMembers (name : String) (members : Members) :
    Members.last? name (mergedMembers members) = (Members.last? name members).map merged := by
  induction members with
  | nil => rfl
  | cons member others inductionHypothesis =>
      obtain ⟨present, value⟩ := member
      rw [mergedMembers, Members.last?, inductionHypothesis, Members.last?, Option.map_or]
      congr 1
      split <;> rfl

/-- Without repetitions a manifest lists the names that it lists with them. -/
theorem names_merged_object (members : Members) :
    names (merged (.object members)) = listed members := by
  have last : (merged (.object members)).member? "dependencies" =
      (Members.last? "dependencies" members).map merged := by
    rw [merged, member?, Members.get?_ofPairs, last?_mergedMembers]
  rw [names, dependencies?, last, listed]
  cases Members.last? "dependencies" members with
  | none => rfl
  | some value =>
      cases value with
      | object inner =>
          show Context.unique (Members.names (Members.ofPairs (mergedMembers inner))) = _
          rw [unique_names_ofPairs, names_mergedMembers]
      | null | bool | number | string | array => rfl

/-! ## What a manifest lists -/

theorem names_merged_of_isDependencies {manifest : Json} {inner : Members}
    (isDependencies : IsDependencies manifest inner) :
    names (merged manifest) = Context.unique (Members.names inner) := by
  obtain ⟨before, behind, rfl, isLast⟩ := isDependencies
  rw [names_merged_object, listed, Members.last?_eq_some_iff.2 ⟨before, behind, rfl, isLast⟩]

theorem names_merged_of_not {manifest : Json}
    (noneThere : ∀ inner, ¬ IsDependencies manifest inner) :
    names (merged manifest) = .empty := by
  cases manifest with
  | object members =>
      rw [names_merged_object, listed]
      split
      next inner isLast =>
        obtain ⟨before, behind, whole, absent⟩ := Members.last?_eq_some_iff.1 isLast
        exact absurd ⟨before, behind, by rw [whole], absent⟩ (noneThere inner)
      next => rfl
  | null | bool | number | string | array => rfl

theorem extract_of_isText {manifest : Json} {text : String} (isText : IsText manifest text) :
    extract text = (.ofContext (names (merged manifest)) .js, []) := by
  rw [extract, parse_eq_ok_iff.2 ⟨manifest, isText, rfl⟩]

theorem extract_of_no_isText {text : String} (noText : ∀ manifest, ¬ IsText manifest text) :
    ∃ event, extract text = (.empty .js, [event]) ∧ event.severity = .warn := by
  rw [extract]
  cases read : parse text with
  | ok value =>
      obtain ⟨manifest, isText, -⟩ := parse_eq_ok_iff.1 read
      exact absurd isText (noText manifest)
  | error fault => exact ⟨_, rfl, rfl⟩

/-! ## Edits -/

theorem Edit.names_eq {manifest changed : Json} (edit : Edit manifest changed) :
    names (merged manifest) = names (merged changed) := by
  cases edit with
  | @other before behind name value different =>
      have unseen : Members.last? "dependencies" ((name, value) :: behind) =
          Members.last? "dependencies" behind := by
        rw [Members.last?, if_neg different, Option.or_none]
      rw [names_merged_object, names_merged_object, listed, listed, Members.last?_append,
        Members.last?_append, unseen]
  | @value before behind first later name old new =>
      have sameNames : Members.names (first ++ (name, old) :: later) =
          Members.names (first ++ (name, new) :: later) := by
        simp [Members.names]
      rw [names_merged_object, names_merged_object, listed, listed, Members.last?_append,
        Members.last?_append, Members.last?, Members.last?, if_pos rfl, if_pos rfl]
      cases Members.last? "dependencies" behind with
      | none =>
          show Context.unique _ = Context.unique _
          rw [sameNames]
      | some value => rfl

/-- Edits one after another, done or undone, change nothing. -/
theorem names_eq_of_eqvGen {manifest changed : Json}
    (edits : Relation.EqvGen Edit manifest changed) :
    names (merged manifest) = names (merged changed) := by
  have oneStep : ∀ before behind, Edit before behind →
      names (merged before) = names (merged behind) :=
    fun _ _ edit => edit.names_eq
  exact congrArg (Quot.lift (fun written => names (merged written)) oneStep)
    (Quot.eqvGen_sound edits)

/-! ## Texts of manifests -/

/-- A member without white space, by its name, what spells it, and the text of its value. -/
def bareMember (name spelling : String) (text : List Char) : MemberText :=
  ⟨name, spelling.toList, [], [], text⟩

/-- Objects without white space between their members. -/
theorem writes_bareObject {depth : Nat} {parts : List (MemberText × Json)}
    (each : ∀ part ∈ parts, part.1.WellFormed ∧ Writes depth part.2 part.1.valueText) :
    Writes (depth + 1) (.object (parts.map fun part => (part.1.name, part.2)))
      ('\x7b' :: (Layout.compact.body depth (parts.map fun part => part.1.chars) ++ ['\x7d'])) :=
  .object (fun part member => (each part member).1) (separated_body .compact depth _)
    fun part member => (each part member).2

theorem spells_plain {text : String} (plain : text.toList.flatMap escapeChar = text.toList) :
    Spells text.toList text.toList := by
  have spells := spells_escaped text.toList
  rwa [plain] at spells

/-- A text lists the distinct names of the members of its last `dependencies`, if that is an object,
and nothing otherwise; it is reported only if it is no JSON text. Neither white space nor the
spelling of names matters, nor what edits change. -/
theorem lists_last_dependencies (text : String) :
    ((∀ manifest, ¬ IsText manifest text) →
      ∃ event, extract text = (.empty .js, [event]) ∧ event.severity = .warn) ∧
    ∀ manifest, IsText manifest text →
      (∀ inner, IsDependencies manifest inner →
        extract text =
          (.ofContext ⟨((Members.names inner).filter fun name => name ≠ "").eraseDups⟩ .js, [])) ∧
      ((∀ inner, ¬ IsDependencies manifest inner) → extract text = (.empty .js, [])) ∧
      ∀ changed other, IsText changed other → Relation.EqvGen Edit manifest changed →
        extract other = extract text := by
  refine ⟨extract_of_no_isText, ?_⟩
  intro manifest isText
  refine ⟨?_, ?_, ?_⟩
  · intro inner isDependencies
    rw [extract_of_isText isText, names_merged_of_isDependencies isDependencies,
      ← Context.identifiers_unique]
  · intro noneThere
    rw [extract_of_isText isText, names_merged_of_not noneThere]
    rfl
  · intro changed other isOther edits
    rw [extract_of_isText isText, extract_of_isText isOther, names_eq_of_eqvGen edits]

/-- Four names in one text, of which one is empty, one is repeated and one is written with an
escape; the same names in the other, with spaces and another value. -/
theorem lists_last_dependencies_escaped :
    let first :=
      "\x7b\"dependencies\":\x7b\"c\":null,\"\\u0061\":null,\"\":null,\"c\":true\x7d\x7d"
    let second :=
      " \x7b\"dependencies\":\x7b\"c\":null,\"a\":null,\"\":null,\"c\":false\x7d\x7d\n"
    (∃ event, extract "\x7b" = (.empty .js, [event]) ∧ event.severity = .warn) ∧
      extract first = (.ofContext ⟨["c", "a"]⟩ .js, []) ∧ extract second = extract first := by
  intro first second
  have plain {name : String} {value : Json} {text : List Char} {depth : Nat}
      (asIs : name.toList.flatMap escapeChar = name.toList) (writes : Writes depth value text) :
      (bareMember name name text).WellFormed ∧ Writes depth value text :=
    ⟨⟨spells_plain asIs, blank_nil, blank_nil⟩, writes⟩
  have manifest {spelling : String} (spells : Spells "a".toList spelling.toList) {value : Json}
      {text : List Char} (writes : Writes 125 value text) :
      Writes depthLimit (.object [("dependencies",
        .object [("c", .null), ("a", .null), ("", .null), ("c", value)])]) _ :=
    @writes_bareObject 126 [(bareMember "dependencies" "dependencies" _, _)] <|
      List.forall_mem_singleton.2 <| plain (by decide) <| @writes_bareObject 125
        [(bareMember "c" "c" "null".toList, .null), (bareMember "a" spelling "null".toList, .null),
          (bareMember "" "" "null".toList, .null), (bareMember "c" "c" text, value)] <| by
        simp only [List.forall_mem_cons]
        exact ⟨plain (by decide) .null, ⟨⟨spells, blank_nil, blank_nil⟩, .null⟩,
          plain (by decide) .null, plain (by decide) writes, List.forall_mem_nil _⟩
  have escaped : Spells "a".toList "\\u0061".toList :=
    .cons (.escaped (.unit (.digits (a := 0) (b := 0) (c := 6) (d := 1) (by decide) (by decide)
      (by decide) (by decide)) (by decide))) .nil
  have firstText : IsText _ first :=
    ⟨[], _, [], by decide, blank_nil, blank_nil, manifest escaped .boolTrue⟩
  have secondText : IsText _ second :=
    ⟨[' '], _, ['\n'], by decide, by simp [Blank, isSpace], by simp [Blank, isSpace],
      manifest (spells_plain (by decide)) .boolFalse⟩
  have broken : ∀ manifest, ¬ IsText manifest "\x7b" := by
    intro manifest isText
    have read := parse_eq_ok_iff.2 ⟨manifest, isText, rfl⟩
    cases read
  obtain ⟨listed, -, kept⟩ := (lists_last_dependencies first).2 _ firstText
  refine ⟨(lists_last_dependencies _).1 broken, listed _ ⟨[], [], rfl, List.not_mem_nil⟩, ?_⟩
  exact kept _ _ secondText (.rel _ _ (@Edit.value [] [] [("c", .null), ("a", .null), ("", .null)]
    [] "c" (.bool true) (.bool false)))

end LibraryScout.Manifest.Package
