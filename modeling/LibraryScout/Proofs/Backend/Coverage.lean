import LibraryScout.Backend.Suggestions
import Mathlib.Data.List.Basic
import Mathlib.Order.Defs.Unbundled

/-!
Contract: what suggested modules cover.

Owns:
- `Extends`, coverage stated on whole texts: a module itself, or the module, a colon and more;
- coverage as an order: it is a partial order on texts, and two modules that cover one text are
  comparable;
- the index of an answer: its entries are exact, a look-up finds what every entry of a module has,
  and the lists of two entries are nested or disjoint.

Does not own: what a report shows of an index.
-/

namespace LibraryScout.Backend

/-- A text is a module, or it starts with the module and a colon. -/
def Extends (moduleName raw : String) : Prop :=
  raw = moduleName ∨ (moduleName ++ ":").toList <+: raw.toList

instance (moduleName raw : String) : Decidable (Extends moduleName raw) :=
  inferInstanceAs (Decidable (_ ∨ _))

/-! ## Coverage as a prefix with a tail -/

/-- What can follow a module in a text that it covers: nothing, or a colon and more. -/
def IsTail (tail : List Char) : Prop :=
  ∀ character ∈ tail.head?, character = ':'

theorem isTail_nil : IsTail [] := by
  simp [IsTail]

theorem isTail_cons {character : Char} {rest : List Char} :
    IsTail (character :: rest) ↔ character = ':' := by
  simp [IsTail]

theorem IsTail.append {first second : List Char} (firstTail : IsTail first)
    (secondTail : IsTail second) : IsTail (first ++ second) := by
  cases first with
  | nil => exact secondTail
  | cons character rest => exact isTail_cons.2 (isTail_cons.1 firstTail)

/-- The start of a tail is a tail. -/
theorem IsTail.of_append {first second : List Char} (tail : IsTail (first ++ second)) :
    IsTail first := by
  cases first with
  | nil => exact isTail_nil
  | cons character rest => exact isTail_cons.2 (isTail_cons.1 tail)

theorem coversChars_iff {letters text : List Char} :
    coversChars letters text = true ↔ ∃ tail, text = letters ++ tail ∧ IsTail tail := by
  induction letters generalizing text with
  | nil =>
      cases text with
      | nil => simp [coversChars, isTail_nil]
      | cons next rest => simp [coversChars, isTail_cons]
  | cons letter letters inductionHypothesis =>
      cases text with
      | nil => simp [coversChars]
      | cons character rest =>
          simp only [coversChars, Bool.and_eq_true, decide_eq_true_eq, inductionHypothesis,
            List.cons_append, List.cons.injEq]
          constructor
          · rintro ⟨rfl, tail, rfl, isTail⟩
            exact ⟨tail, ⟨rfl, rfl⟩, isTail⟩
          · rintro ⟨tail, ⟨rfl, rfl⟩, isTail⟩
            exact ⟨rfl, tail, rfl, isTail⟩

theorem covers_iff_tail {moduleName raw : String} :
    covers moduleName raw = true ↔ ∃ tail, raw.toList = moduleName.toList ++ tail ∧ IsTail tail :=
  coversChars_iff

theorem covers_iff_extends {moduleName raw : String} :
    covers moduleName raw = true ↔ Extends moduleName raw := by
  have colon : (moduleName ++ ":").toList = moduleName.toList ++ [':'] := String.toList_append
  rw [covers_iff_tail, Extends, colon]
  constructor
  · rintro ⟨tail, whole, isTail⟩
    cases tail with
    | nil => exact Or.inl (String.toList_injective (by simpa using whole))
    | cons character rest =>
        obtain rfl := isTail_cons.1 isTail
        exact Or.inr ⟨rest, by simp [whole]⟩
  · rintro (rfl | ⟨rest, whole⟩)
    · exact ⟨[], by simp, isTail_nil⟩
    · exact ⟨':' :: rest, by simp [← whole], isTail_cons.2 rfl⟩

/-! ## Coverage as an order -/

theorem covers_refl (text : String) : covers text text = true :=
  covers_iff_tail.2 ⟨[], by simp, isTail_nil⟩

theorem covers_trans {upper middle lower : String} (above : covers upper middle = true)
    (below : covers middle lower = true) : covers upper lower = true := by
  obtain ⟨first, middleIs, firstTail⟩ := covers_iff_tail.1 above
  obtain ⟨second, lowerIs, secondTail⟩ := covers_iff_tail.1 below
  exact covers_iff_tail.2
    ⟨first ++ second, by rw [lowerIs, middleIs, List.append_assoc], firstTail.append secondTail⟩

theorem covers_antisymm {first second : String} (forth : covers first second = true)
    (back : covers second first = true) : first = second := by
  obtain ⟨tail, secondIs, -⟩ := covers_iff_tail.1 forth
  obtain ⟨other, firstIs, -⟩ := covers_iff_tail.1 back
  have noTail : tail = [] := by
    have lengths := congrArg List.length firstIs
    rw [secondIs, List.length_append, List.length_append] at lengths
    exact List.eq_nil_of_length_eq_zero (by omega)
  rw [noTail, List.append_nil] at secondIs
  exact String.toList_injective secondIs.symm

theorem isPartialOrder_covers :
    IsPartialOrder String fun upper lower => covers upper lower = true where
  refl := covers_refl
  trans _ _ _ := covers_trans
  antisymm _ _ := covers_antisymm

/-- Two modules start a text that both cover, so one of them starts the other, and what the longer
one has beyond the shorter is the start of a tail. -/
theorem comparable_of_covers {first second raw : String} (byFirst : covers first raw = true)
    (bySecond : covers second raw = true) :
    covers first second = true ∨ covers second first = true := by
  obtain ⟨firstTail, firstWhole, isFirstTail⟩ := covers_iff_tail.1 byFirst
  obtain ⟨secondTail, secondWhole, isSecondTail⟩ := covers_iff_tail.1 bySecond
  rcases List.append_eq_append_iff.1 (firstWhole.symm.trans secondWhole) with
    ⟨between, secondIs, rfl⟩ | ⟨between, firstIs, rfl⟩
  · exact Or.inl (covers_iff_tail.2 ⟨between, secondIs, isFirstTail.of_append⟩)
  · exact Or.inr (covers_iff_tail.2 ⟨between, firstIs, isSecondTail.of_append⟩)

/-! ## The index of an answer -/

namespace SuggestionIndex

variable {response : SearchResponse} {entry first second : IndexEntry}

theorem entries_ofResponse (response : SearchResponse) :
    (ofResponse response).entries = response.filtered.map fun suggestion =>
      ⟨suggestion.moduleName,
        response.raw.filter fun raw => Extends suggestion.moduleName raw⟩ := by
  have sameTest (moduleName : String) :
      covers moduleName = fun raw => decide (Extends moduleName raw) :=
    funext fun _ => Bool.eq_iff_iff.2 (by simp [covers_iff_extends])
  simp only [ofResponse, sameTest]

/-- What an entry lists depends on its module alone. -/
theorem raw_of_mem_entries (member : entry ∈ (ofResponse response).entries) :
    entry.raw = response.raw.filter (covers entry.moduleName) := by
  obtain ⟨suggestion, -, rfl⟩ := List.mem_map.1 member
  rfl

/-- The list of a covered module is a part of the list of the module that covers it. -/
theorem sublist_of_covers (firstMember : first ∈ (ofResponse response).entries)
    (secondMember : second ∈ (ofResponse response).entries)
    (above : covers first.moduleName second.moduleName = true) :
    second.raw.Sublist first.raw := by
  rw [raw_of_mem_entries firstMember, raw_of_mem_entries secondMember]
  exact List.monotone_filter_right response.raw fun _ below => covers_trans above below

/-- Two entries that list a common identifier have comparable modules, so one list holds the
other. -/
theorem nested_or_disjoint (firstMember : first ∈ (ofResponse response).entries)
    (secondMember : second ∈ (ofResponse response).entries) :
    first.raw.Disjoint second.raw ∨ first.raw.Sublist second.raw ∨
      second.raw.Sublist first.raw := by
  by_cases shared : ∃ raw, raw ∈ first.raw ∧ raw ∈ second.raw
  · obtain ⟨raw, inFirst, inSecond⟩ := shared
    rw [raw_of_mem_entries firstMember] at inFirst
    rw [raw_of_mem_entries secondMember] at inSecond
    rcases comparable_of_covers (List.mem_filter.1 inFirst).2 (List.mem_filter.1 inSecond).2 with
      above | below
    · exact Or.inr (Or.inr (sublist_of_covers firstMember secondMember above))
    · exact Or.inr (Or.inl (sublist_of_covers secondMember firstMember below))
  · exact Or.inl fun raw inFirst inSecond => shared ⟨raw, inFirst, inSecond⟩

theorem covered?_eq_none_iff {moduleName : String} :
    (ofResponse response).covered? moduleName = none ↔
      ∀ suggestion ∈ response.filtered, suggestion.moduleName ≠ moduleName := by
  rw [covered?, Option.map_eq_none_iff, List.find?_eq_none]
  simp [ofResponse]

/-- A look-up finds one entry of a module, and every other one of that module lists the same. -/
theorem covered?_eq_some_of_mem (member : entry ∈ (ofResponse response).entries) :
    (ofResponse response).covered? entry.moduleName = some entry.raw := by
  rw [covered?]
  cases found : (ofResponse response).entries.find? _ with
  | none =>
      have other := List.find?_eq_none.1 found entry member
      simp at other
  | some other =>
      have sameModule : other.moduleName = entry.moduleName := by
        simpa using List.find?_some found
      rw [Option.map_some, raw_of_mem_entries (List.mem_of_find?_eq_some found),
        raw_of_mem_entries member, sameModule]

/-- The index of an answer is exact. It has one entry for each suggestion, in order, with what the
module of the suggestion covers, in the order of the answer and with repetitions; a look-up fails
for modules that were not suggested alone, and otherwise finds the list that all entries of the
module have. Coverage is a partial order in which the modules that cover one text are comparable,
so the lists of two entries are nested or disjoint. -/
theorem index_exact_and_nested (response : SearchResponse) :
    let index := ofResponse response
    index.entries = response.filtered.map (fun suggestion =>
        ⟨suggestion.moduleName, response.raw.filter fun raw =>
          Extends suggestion.moduleName raw⟩) ∧
      (∀ moduleName,
        (index.covered? moduleName = none ↔
          ∀ suggestion ∈ response.filtered, suggestion.moduleName ≠ moduleName) ∧
        ∀ entry ∈ index.entries, entry.moduleName = moduleName →
          index.covered? moduleName = some entry.raw) ∧
      IsPartialOrder String (fun upper lower => covers upper lower = true) ∧
      (∀ first second raw, covers first raw = true → covers second raw = true →
        covers first second = true ∨ covers second first = true) ∧
      ∀ first ∈ index.entries, ∀ second ∈ index.entries,
        first.raw.Disjoint second.raw ∨ first.raw.Sublist second.raw ∨
          second.raw.Sublist first.raw := by
  intro index
  refine ⟨entries_ofResponse response, ?_, isPartialOrder_covers,
    fun _ _ _ => comparable_of_covers, ?_⟩
  · intro moduleName
    refine ⟨covered?_eq_none_iff, ?_⟩
    rintro entry member rfl
    exact covered?_eq_some_of_mem member
  · exact fun first firstMember second secondMember => nested_or_disjoint firstMember secondMember

/-- A module that was suggested twice, one above it, and one whose name merely starts alike. -/
theorem index_exact_and_nested_of_repeated :
    let response : SearchResponse :=
      ⟨[⟨"g:a", []⟩, ⟨"g", []⟩, ⟨"g:a", [("rank", .bool true)]⟩, ⟨"g:a-x", []⟩],
        ["g:a:1", "g:a-x:1", "g:a", "g:a:1"]⟩
    let covered := ["g:a:1", "g:a", "g:a:1"]
    (ofResponse response).covered? "g:a" = some covered ∧
      (covers "g:a" "g" = true ∨ covers "g" "g:a" = true) ∧
      (covered.Disjoint ["g:a-x:1"] ∨ covered.Sublist ["g:a-x:1"] ∨
        ["g:a-x:1"].Sublist covered) := by
  intro response covered
  obtain ⟨entries, lookUp, -, comparable, nested⟩ := index_exact_and_nested response
  have repeated : ⟨"g:a", covered⟩ ∈ (ofResponse response).entries := by
    rw [entries]
    decide +kernel
  have alike : ⟨"g:a-x", ["g:a-x:1"]⟩ ∈ (ofResponse response).entries := by
    rw [entries]
    decide +kernel
  exact ⟨(lookUp "g:a").2 _ repeated rfl,
    comparable "g:a" "g" "g:a:1" (by decide +kernel) (by decide +kernel),
    nested _ repeated _ alike⟩

end SuggestionIndex

end LibraryScout.Backend
