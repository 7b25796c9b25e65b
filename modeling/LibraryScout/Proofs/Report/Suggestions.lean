import LibraryScout.Proofs.Backend.Coverage
import LibraryScout.Report

/-!
Contract: which snippets a report on suggestions shows.

Owns:
- `block`, the lines of one suggestion with a given snippet, and `blocks`, those of all suggestions;
- that the text for readers is a heading and such blocks, one for each suggestion in order, where
  the snippet is that of the first suggestion with the same module;
- that the data shows every suggestion with its own snippet;
- that both show the same snippets exactly if suggestions of one module have snippets that look the
  same.

Does not own: what the heading says, and the layout of data.
-/

namespace LibraryScout.Report.Suggestions

open LibraryScout.Backend LibraryScout.Source

/-! ## Blocks -/

/-- The lines in which a snippet is shown, if there is one. -/
def shownLines : Option Json → List String
  | some snippet => snippetLines snippet
  | none => []

/-- The line that says what a module covers, if it covers anything. -/
def coverLines (raw : List String) (moduleName : String) : List String :=
  let covered := raw.filter fun identifier => Extends moduleName identifier
  if covered.isEmpty then [] else ["     covers: " ++ Text.joined ", " covered]

/-- The lines of the suggestion at a position: its rank and module, what it covers, and the snippet
that it is given. -/
def block (response : SearchResponse) (snippet? : Suggestion → Option Json) (position : Nat)
    (suggestion : Suggestion) : List String :=
  ("  " ++ toString (position + 1) ++ ". " ++ suggestion.moduleName) ::
    (coverLines response.raw suggestion.moduleName ++ shownLines (snippet? suggestion))

def blocks (response : SearchResponse) (snippet? : Suggestion → Option Json) :
    List (List String) :=
  response.filtered.mapIdx (block response snippet?)

/-- The snippet of the first suggestion with the module of a suggestion. -/
def firstSnippet? (response : SearchResponse) (suggestion : Suggestion) : Option Json :=
  (response.filtered.find? fun other => other.moduleName == suggestion.moduleName).bind
    Suggestion.snippet?

theorem firstSnippet?_of_first {response : SearchResponse} {before behind : List Suggestion}
    {first : Suggestion} (split : response.filtered = before ++ first :: behind)
    (noEarlier : ∀ earlier ∈ before, earlier.moduleName ≠ first.moduleName)
    {suggestion : Suggestion} (sameModule : suggestion.moduleName = first.moduleName) :
    firstSnippet? response suggestion = first.snippet? := by
  have found : (response.filtered.find? fun other => other.moduleName == suggestion.moduleName) =
      some first := by
    apply List.find?_eq_some_iff_append.2
    refine ⟨by simp [sameModule], before, behind, split, fun earlier member => ?_⟩
    simpa [sameModule] using noEarlier earlier member
  rw [firstSnippet?, found, Option.bind_some]

theorem exists_first {response : SearchResponse} {suggestion : Suggestion}
    (member : suggestion ∈ response.filtered) :
    ∃ first ∈ response.filtered, first.moduleName = suggestion.moduleName ∧
      firstSnippet? response suggestion = first.snippet? := by
  cases found : response.filtered.find? fun other =>
      other.moduleName == suggestion.moduleName with
  | none =>
      have other := List.find?_eq_none.1 found suggestion member
      simp at other
  | some first =>
      refine ⟨first, List.mem_of_find?_eq_some found, ?_, ?_⟩
      · simpa using List.find?_some found
      · rw [firstSnippet?, found, Option.bind_some]

/-- Blocks that are given other snippets are the same as long as the snippets look the same. -/
theorem blocks_eq_iff {response : SearchResponse} {first second : Suggestion → Option Json} :
    blocks response first = blocks response second ↔
      ∀ suggestion ∈ response.filtered,
        shownLines (first suggestion) = shownLines (second suggestion) := by
  rw [blocks, blocks, List.mapIdx_eq_mapIdx_iff, List.forall_mem_iff_forall_getElem]
  simp only [block, List.cons.injEq, true_and, List.append_cancel_left_eq]

theorem blocks_firstSnippet?_iff (response : SearchResponse) :
    blocks response (firstSnippet? response) = blocks response Suggestion.snippet? ↔
      ∀ suggestion ∈ response.filtered, ∀ other ∈ response.filtered,
        suggestion.moduleName = other.moduleName →
          shownLines suggestion.snippet? = shownLines other.snippet? := by
  rw [blocks_eq_iff]
  constructor
  · intro own suggestion member other otherMember sameModule
    have sameFirst : firstSnippet? response suggestion = firstSnippet? response other := by
      rw [firstSnippet?, sameModule]
      rfl
    rw [← own suggestion member, ← own other otherMember, sameFirst]
  · intro alike suggestion member
    obtain ⟨first, firstMember, sameModule, shown⟩ := exists_first member
    rw [shown]
    exact alike first firstMember suggestion member sameModule

/-! ## The text for readers -/

section

variable (language : Language) (intent : String) (context : List String)
  (response : SearchResponse)

/-- The report on an answer. -/
def ofResponse : Suggestions :=
  ⟨language, intent, context, response, SuggestionIndex.ofResponse response⟩

theorem snippetFor?_ofResponse (suggestion : Suggestion) :
    (ofResponse language intent context response).snippetFor? suggestion.moduleName =
      firstSnippet? response suggestion := by
  unfold snippetFor? firstSnippet? ofResponse
  cases response.filtered.find? fun other => other.moduleName == suggestion.moduleName with
  | none => rfl
  | some first => rfl

theorem entryLines_ofResponse (position : Nat) (suggestion : Suggestion) :
    (ofResponse language intent context response).entryLines (position + 1)
        ⟨suggestion.moduleName, response.raw.filter fun raw =>
          Extends suggestion.moduleName raw⟩ =
      block response (firstSnippet? response) position suggestion := by
  unfold entryLines block
  rw [snippetFor?_ofResponse, List.append_assoc, List.singleton_append]
  cases firstSnippet? response suggestion with
  | none => rfl
  | some snippet => rfl

/-- Ranks go up by one from suggestion to suggestion. -/
theorem rankedLines_ofResponse (start : Nat) (suggestions : List Suggestion) :
    (ofResponse language intent context response).rankedLines (start + 1)
        (suggestions.map fun suggestion => ⟨suggestion.moduleName,
          response.raw.filter fun raw => Extends suggestion.moduleName raw⟩) =
      (suggestions.mapIdx fun position =>
        block response (firstSnippet? response) (start + position)).flatten := by
  induction suggestions generalizing start with
  | nil => rfl
  | cons suggestion later inductionHypothesis =>
      have moved : (fun position => block response (firstSnippet? response)
          (start + (position + 1))) = fun position =>
            block response (firstSnippet? response) (start + 1 + position) := by
        funext position
        congr 1
        omega
      rw [List.map_cons, rankedLines, entryLines_ofResponse, inductionHypothesis,
        List.mapIdx_cons, List.flatten_cons, moved]
      rfl

theorem text_ofResponse (nonempty : response.filtered ≠ []) :
    (ofResponse language intent context response).text =
      trimmedEnd (lines ((ofResponse language intent context response).heading ::
        (blocks response (firstSnippet? response)).flatten)) := by
  have entries := SuggestionIndex.entries_ofResponse response
  have ranked := rankedLines_ofResponse language intent context response 0 response.filtered
  have notEmpty : (SuggestionIndex.ofResponse response).entries.isEmpty = false := by
    rw [entries, List.isEmpty_map]
    exact List.isEmpty_eq_false_iff.2 nonempty
  simp only [Nat.zero_add] at ranked
  rw [← entries] at ranked
  show (if (SuggestionIndex.ofResponse response).entries.isEmpty then _ else _) = _
  rw [notEmpty, if_neg Bool.false_ne_true]
  exact congrArg (fun ranked => trimmedEnd (lines (_ :: ranked))) ranked

end

/-! ## The data -/

/-- The snippet that the data of a report has for the suggestion at a position. -/
def dataSnippet? (data : Json) (position : Nat) : Option Json := do
  let answer ← data.member? "suggestions"
  match ← answer.member? "filtered" with
  | .array suggestions => (← suggestions[position]?).member? "snippet"
  | _ => none

theorem member?_toJson_snippet (suggestion : Suggestion) :
    suggestion.toJson.member? "snippet" = suggestion.snippet? := by
  have other : ("module" == "snippet") = false := by decide
  simp only [Suggestion.toJson, Json.member?, Json.Members.get?, Suggestion.snippet?,
    List.find?_cons, other]

theorem dataSnippet?_toJson (report : Suggestions) (position : Nat) :
    dataSnippet? report.toJson position =
      report.response.filtered[position]?.bind Suggestion.snippet? := by
  have answer : report.toJson.member? "suggestions" = some report.response.toJson := by
    simp [toJson, Json.member?, Json.Members.get?]
  have filtered : report.response.toJson.member? "filtered" =
      some (.array (report.response.filtered.map Suggestion.toJson)) := by
    simp [SearchResponse.toJson, Json.member?, Json.Members.get?]
  rw [dataSnippet?, answer, Option.bind_eq_bind, Option.bind_some, filtered, Option.bind_some]
  show ((report.response.filtered.map Suggestion.toJson)[position]?.bind fun suggestion =>
    suggestion.member? "snippet") = _
  rw [List.getElem?_map, Option.bind_map]
  exact congrArg _ (funext member?_toJson_snippet)

/-! ## Both forms -/

/-- The text for readers has one block for each suggestion, with its rank and its module, and the
data has one entry for each, all in the order of the answer. The data shows every suggestion with
its own snippet. A block shows, line by line, the snippet of the first suggestion with its module,
so the blocks show just what the data shows if and only if the snippets of suggestions with one
module look the same; in particular the first suggestion of a module always has its own. -/
theorem snippets_alike_iff (language : Language) (intent : String) (context : List String)
    (response : SearchResponse) :
    let report := ofResponse language intent context response
    suggestions .human report =
        (if response.filtered = [] then report.heading ++ "\n  No suggestions found"
          else trimmedEnd (lines
            (report.heading :: (blocks response (firstSnippet? response)).flatten))) ∧
      (suggestions .json report = report.toJson.indented ∧
        ∀ position, dataSnippet? report.toJson position =
          response.filtered[position]?.bind Suggestion.snippet?) ∧
      (∀ before first behind, response.filtered = before ++ first :: behind →
        (∀ earlier ∈ before, earlier.moduleName ≠ first.moduleName) →
        ∀ suggestion, suggestion.moduleName = first.moduleName →
          firstSnippet? response suggestion = first.snippet?) ∧
      (blocks response (firstSnippet? response) = blocks response Suggestion.snippet? ↔
        ∀ suggestion ∈ response.filtered, ∀ other ∈ response.filtered,
          suggestion.moduleName = other.moduleName →
            shownLines suggestion.snippet? = shownLines other.snippet?) := by
  intro report
  refine ⟨?text, ⟨rfl, dataSnippet?_toJson report⟩, ?first, blocks_firstSnippet?_iff response⟩
  case text =>
    show report.text = _
    split
    next nothing =>
      have noEntries : report.index.entries.isEmpty = true := by
        show (SuggestionIndex.ofResponse response).entries.isEmpty = true
        rw [SuggestionIndex.entries_ofResponse, nothing]
        rfl
      exact if_pos noEntries
    next nonempty => exact text_ofResponse language intent context response nonempty
  case first =>
    intro before first behind split noEarlier suggestion sameModule
    exact firstSnippet?_of_first split noEarlier sameModule

/-- Two suggestions of one module whose snippets are different values that look the same, and one
without a snippet between them. -/
theorem snippets_alike_iff_of_repeated :
    let response : SearchResponse :=
      ⟨[⟨"a", [("snippet", .string "1")]⟩, ⟨"b", [("rank", .null)]⟩,
        ⟨"a", [("snippet", .number (.integer 1))]⟩], ["a:2"]⟩
    let report := ofResponse .java "i" [] response
    (∀ suggestion ∈ response.filtered, ∀ other ∈ response.filtered,
      suggestion.moduleName = other.moduleName →
        shownLines suggestion.snippet? = shownLines other.snippet?) ∧
    suggestions .human report =
      trimmedEnd (lines (report.heading :: (blocks response Suggestion.snippet?).flatten)) ∧
    suggestions .human report = "Suggestions for 'i' (java, context: -)\n" ++
      "  1. a\n     covers: a:2\n     | 1\n  2. b\n  3. a\n     covers: a:2\n     | 1" := by
  intro response report
  have alike : ∀ suggestion ∈ response.filtered, ∀ other ∈ response.filtered,
      suggestion.moduleName = other.moduleName →
        shownLines suggestion.snippet? = shownLines other.snippet? := by
    simp only [response, List.forall_mem_cons]
    decide +kernel
  obtain ⟨text, -, -, same⟩ := snippets_alike_iff .java "i" [] response
  rw [if_neg (List.cons_ne_nil _ _), same.2 alike] at text
  exact ⟨alike, text, by decide +kernel⟩

/-- A second suggestion of a module is shown with the snippet of the first, though the data has its
own for it. -/
theorem repeated_module_shows_first_snippet :
    let response : SearchResponse :=
      ⟨[⟨"a", [("snippet", .string "x")]⟩, ⟨"a", [("snippet", .string "y")]⟩], []⟩
    let report := ofResponse .java "i" [] response
    suggestions .human report =
        "Suggestions for 'i' (java, context: -)\n  1. a\n     | x\n  2. a\n     | x" ∧
      dataSnippet? report.toJson 1 = some (.string "y") ∧
      suggestions .human report ≠
        trimmedEnd (lines (report.heading :: (blocks response Suggestion.snippet?).flatten)) := by
  intro response report
  exact ⟨by decide +kernel, rfl, by decide +kernel⟩

end LibraryScout.Report.Suggestions
