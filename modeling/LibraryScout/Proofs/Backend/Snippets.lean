import LibraryScout.Backend.Suggestions
import LibraryScout.Proofs.Json.Members
import Mathlib.Data.List.Forall2

/-!
Contract: what attaching snippets changes in an answer, and what it leaves alone.

Owns:
- `Given`, members before and after a name is given a value, stated without insertion: the value
  stands where the name stood first, or at the end, and all else is as it was;
- `Attached`, one suggestion before and after snippets are attached;
- that attaching does this to every suggestion and nothing more, that it counts the suggestions
  with a snippet, and that doing it again changes nothing.

Does not own: where snippets come from, and how they are shown.
-/

namespace LibraryScout.Json.Members

/-! ## Giving a name a value -/

/-- Members before and after a name is given a value. -/
inductive Given (name : String) (value : Json) : Members → Members → Prop where
  | inPlace {before behind : Members} {old : Json} (first : name ∉ before.names) :
      Given name value (before ++ (name, old) :: behind) (before ++ (name, value) :: behind)
  | atEnd {members : Members} (absent : name ∉ members.names) :
      Given name value members (members ++ [(name, value)])

section

variable {name : String} {value : Json} {members after : Members}

theorem Given.cons {present : String} (different : present ≠ name) (held : Json)
    (given : Given name value members after) :
    Given name value ((present, held) :: members) ((present, held) :: after) := by
  have absent : ∀ {others : Members}, name ∉ others.names →
      name ∉ names ((present, held) :: others) := by
    intro others fresh member
    rcases List.mem_cons.1 member with same | later
    · exact different same.symm
    · exact fresh later
  cases given with
  | @inPlace before behind old first =>
      exact @Given.inPlace name value ((present, held) :: before) behind old (absent first)
  | atEnd fresh => exact .atEnd (absent fresh)

theorem given_insert (members : Members) (name : String) (value : Json) :
    Given name value members (insert members name value) := by
  induction members with
  | nil => exact .atEnd List.not_mem_nil
  | cons member others inductionHypothesis =>
      obtain ⟨present, held⟩ := member
      rw [insert]
      by_cases same : present = name
      · rw [if_pos same, same]
        exact @Given.inPlace name value [] others held List.not_mem_nil
      · rw [if_neg same]
        exact inductionHypothesis.cons same held

theorem insert_append_cons {before : Members} (first : name ∉ before.names) (old : Json)
    (behind : Members) :
    insert (before ++ (name, old) :: behind) name value = before ++ (name, value) :: behind := by
  induction before with
  | nil => exact if_pos rfl
  | cons member others inductionHypothesis =>
      obtain ⟨present, held⟩ := member
      rw [names, List.map_cons, List.mem_cons, not_or] at first
      show insert ((present, held) :: (others ++ (name, old) :: behind)) name value = _
      rw [insert, if_neg (Ne.symm first.1), inductionHypothesis first.2, List.cons_append]

/-- A name that has been given a value has it, and giving it once more changes nothing. -/
theorem Given.insert_eq (given : Given name value members after) :
    insert after name value = after := by
  cases given with
  | inPlace first => exact insert_append_cons first value _
  | atEnd absent => exact insert_append_cons absent value []

end

theorem isSome_get?_iff {members : Members} {name : String} :
    (get? members name).isSome = true ↔ name ∈ members.names := by
  rw [get?, Option.isSome_map, List.find?_isSome, names, List.mem_map]
  simp only [beq_iff_eq]

end LibraryScout.Json.Members

namespace LibraryScout.Backend

open LibraryScout.Json

/-! ## One suggestion -/

/-- A suggestion before and after snippets are attached: one whose module has a snippet is given it
as a detail, and any other stays as it was. -/
inductive Attached (snippets : Snippets) : Suggestion → Suggestion → Prop where
  | known {moduleName : String} {details after : Members} {snippet : Json}
      (has : snippets.get? moduleName = some snippet)
      (given : details.Given "snippet" snippet after) :
      Attached snippets ⟨moduleName, details⟩ ⟨moduleName, after⟩
  | unknown {suggestion : Suggestion} (absent : suggestion.moduleName ∉ snippets.names) :
      Attached snippets suggestion suggestion

section

variable {snippets : Snippets} {suggestion after : Suggestion}

theorem Attached.moduleName_eq (attached : Attached snippets suggestion after) :
    after.moduleName = suggestion.moduleName := by
  cases attached with
  | known has given => rfl
  | unknown absent => rfl

/-- What attaching makes of one suggestion. -/
def attachedTo (snippets : Snippets) (suggestion : Suggestion) : Suggestion :=
  match snippets.get? suggestion.moduleName with
  | some snippet => suggestion.withSnippet snippet
  | none => suggestion

theorem attached_attachedTo (snippets : Snippets) (suggestion : Suggestion) :
    Attached snippets suggestion (attachedTo snippets suggestion) := by
  unfold attachedTo
  cases found : snippets.get? suggestion.moduleName with
  | some snippet => exact .known found (Members.given_insert suggestion.details "snippet" snippet)
  | none =>
      apply Attached.unknown
      rw [← Members.isSome_get?_iff, found]
      exact Bool.false_ne_true

/-- The module is the same afterwards, so the same snippet is attached again. -/
theorem Attached.attachedTo_eq (attached : Attached snippets suggestion after) :
    attachedTo snippets after = after := by
  unfold attachedTo
  cases attached with
  | @known moduleName details after snippet has given =>
      show (match snippets.get? moduleName with
        | some snippet => Suggestion.withSnippet ⟨moduleName, after⟩ snippet
        | none => ⟨moduleName, after⟩) = _
      rw [has]
      exact congrArg (Suggestion.mk moduleName) given.insert_eq
  | unknown absent =>
      rw [← Members.isSome_get?_iff, Option.not_isSome_iff_eq_none] at absent
      rw [absent]

end

/-! ## A whole answer -/

namespace SearchResponse

theorem attachSnippets_eq (response : SearchResponse) (snippets : Snippets) :
    response.attachSnippets snippets =
      ⟨response.filtered.map (attachedTo snippets), response.raw⟩ := rfl

theorem attachedCount_eq (response : SearchResponse) (snippets : Snippets) :
    response.attachedCount snippets =
      (response.filtered.filter fun suggestion =>
        suggestion.moduleName ∈ snippets.names).length := by
  rw [attachedCount, List.countP_eq_length_filter]
  congr 2
  funext suggestion
  exact Bool.eq_iff_iff.2 (Members.isSome_get?_iff.trans decide_eq_true_iff.symm)

/-- Attaching keeps the modules, on which alone the count and the index depend. -/
theorem map_moduleName_attachSnippets (response : SearchResponse) (snippets : Snippets) :
    (response.attachSnippets snippets).filtered.map Suggestion.moduleName =
      response.filtered.map Suggestion.moduleName := by
  rw [attachSnippets_eq, List.map_map]
  exact List.map_congr_left fun suggestion _ =>
    (attached_attachedTo snippets suggestion).moduleName_eq

theorem attachSnippets_attachSnippets (response : SearchResponse) (snippets : Snippets) :
    (response.attachSnippets snippets).attachSnippets snippets =
      response.attachSnippets snippets := by
  rw [attachSnippets_eq, attachSnippets_eq, List.map_map]
  congr 1
  exact List.map_congr_left fun suggestion _ =>
    (attached_attachedTo snippets suggestion).attachedTo_eq

/-- Attaching gives every suggestion whose module has a snippet that snippet as a detail, in the
place of an old one or else at the end. It changes no other detail, no other suggestion and nothing
else of an answer, and counts the suggestions that have a snippet, repeated modules included. Doing
it again changes nothing and counts the same, and the index of the answer stays as it was. -/
theorem attachSnippets_account (response : SearchResponse) (snippets : Snippets) :
    let attached := response.attachSnippets snippets
    response.attachedCount snippets = (response.filtered.filter fun suggestion =>
        suggestion.moduleName ∈ snippets.names).length ∧
      List.Forall₂ (Attached snippets) response.filtered attached.filtered ∧
      attached.raw = response.raw ∧
      attached.attachSnippets snippets = attached ∧
      attached.attachedCount snippets = response.attachedCount snippets ∧
      SuggestionIndex.ofResponse attached = SuggestionIndex.ofResponse response := by
  intro attached
  have sameModules := map_moduleName_attachSnippets response snippets
  refine ⟨attachedCount_eq response snippets, ?each, rfl,
    attachSnippets_attachSnippets response snippets, ?count, ?index⟩
  case each =>
    apply List.forall₂_map_right_iff.2
    apply List.forall₂_same.2
    exact fun suggestion _ => attached_attachedTo snippets suggestion
  case count =>
    have counted (counting : SearchResponse) : counting.attachedCount snippets =
        (counting.filtered.map Suggestion.moduleName).countP fun moduleName =>
          (snippets.get? moduleName).isSome := by
      rw [List.countP_map]
      rfl
    rw [counted, counted, sameModules]
  case index =>
    have entries (indexed : SearchResponse) : SuggestionIndex.ofResponse indexed =
        ⟨(indexed.filtered.map Suggestion.moduleName).map fun moduleName =>
          ⟨moduleName, indexed.raw.filter (covers moduleName)⟩⟩ := by
      rw [List.map_map]
      rfl
    rw [entries, entries, sameModules]
    rfl

/-- An old snippet gives way in its place, and a snippet of no suggested module is left out. -/
example :
    (SearchResponse.mk [⟨"a", [("snippet", .null), ("rank", .null)]⟩, ⟨"b", []⟩] []).attachSnippets
        [("a", .bool true), ("z", .bool false)] =
      ⟨[⟨"a", [("snippet", .bool true), ("rank", .null)]⟩, ⟨"b", []⟩], []⟩ := rfl

end SearchResponse

end LibraryScout.Backend
