import LibraryScout.Backend.Wire
import LibraryScout.Proofs.Text.Lowered

/-!
Contract: intents in normal form.

Owns:
- `IsNormalIntent`, what an intent in normal form holds and how it starts and ends;
- that every intent is put into normal form, and that those which have it are just those which are
  left as they are;
- that neither white space around an intent nor the case of its ASCII letters counts.

Does not own: what a search makes of intents.

The three steps do not get in each other's way: lower-casing neither makes nor takes white space, so
there is nothing to trim after it, and a low line is no letter.
-/

namespace LibraryScout.Backend

open LibraryScout.Text

/-! ## Low lines for spaces -/

/-- A low line for a space, and any other character as it is. -/
def lowLine (character : Char) : Char :=
  if character = ' ' then '_' else character

theorem toList_normalizeIntent (intent : String) :
    (normalizeIntent intent).toList = (lowercase (trim intent.toList)).map lowLine :=
  String.toList_ofList

theorem lowLine_of_ne {character : Char} (noSpace : character ≠ ' ') :
    lowLine character = character :=
  if_neg noSpace

theorem lowLine_ne_space (character : Char) : lowLine character ≠ ' ' := by
  by_cases space : character = ' '
  · rw [lowLine, if_pos space]
    decide
  · rwa [lowLine_of_ne space]

/-- What holds of the low line is not lost by writing it for a space. -/
theorem lowLine_keeps {motive : Char → Prop} (mark : motive '_') {character : Char}
    (here : motive character) : motive (lowLine character) := by
  unfold lowLine
  split
  · exact mark
  · exact here

theorem not_isBlank_lowLine {character : Char} (solid : isBlank character = false) :
    isBlank (lowLine character) = false :=
  lowLine_keeps (motive := fun character => isBlank character = false) (by decide) solid

theorem bare_map_lowLine {text : List Char} (bare : Bare text) : Bare (text.map lowLine) := by
  refine ⟨by simpa using bare.nonempty, ?_, ?_⟩
  · intro character isFirst
    rw [List.head?_map] at isFirst
    obtain ⟨first, wasFirst, rfl⟩ := Option.map_eq_some_iff.1 isFirst
    exact not_isBlank_lowLine (bare.start first wasFirst)
  · intro character isLast
    rw [List.getLast?_map] at isLast
    obtain ⟨last, wasLast, rfl⟩ := Option.map_eq_some_iff.1 isLast
    exact not_isBlank_lowLine (bare.finish last wasLast)

/-! ## Normal form -/

/-- An intent in normal form: no character has another lower case, low lines stand for spaces, and
there is no white space at the ends. -/
structure IsNormalIntent (intent : List Char) : Prop where
  lowered : ∀ character ∈ intent, IsOwnLower character
  noSpace : ' ' ∉ intent
  start : ∀ character ∈ intent.head?, isBlank character = false
  finish : ∀ character ∈ intent.getLast?, isBlank character = false

theorem isNormalIntent_of_bare {text : List Char} (bare : text = [] ∨ Bare text)
    (lowered : ∀ character ∈ text, IsOwnLower character) (noSpace : ' ' ∉ text) :
    IsNormalIntent text := by
  rcases bare with rfl | bare
  · exact ⟨lowered, noSpace, by simp, by simp⟩
  · exact ⟨lowered, noSpace, bare.start, bare.finish⟩

theorem bare_normalizeIntent (intent : String) :
    (normalizeIntent intent).toList = [] ∨ Bare (normalizeIntent intent).toList := by
  rw [toList_normalizeIntent]
  by_cases empty : trim intent.toList = []
  · rw [empty]
    exact .inl rfl
  · exact .inr (bare_map_lowLine (bare_trim empty).lowercase)

theorem isNormalIntent_normalizeIntent (intent : String) :
    IsNormalIntent (normalizeIntent intent).toList := by
  refine isNormalIntent_of_bare (bare_normalizeIntent intent) ?_ ?_
  · intro character member
    rw [toList_normalizeIntent, List.mem_map] at member
    obtain ⟨lower, isLower, rfl⟩ := member
    exact lowLine_keeps (by decide) (isOwnLower_of_mem_lowercaseAfter isLower)
  · intro space
    rw [toList_normalizeIntent, List.mem_map] at space
    obtain ⟨lower, -, isSpace⟩ := space
    exact lowLine_ne_space lower isSpace

theorem normalizeIntent_of_isNormalIntent {intent : String}
    (normal : IsNormalIntent intent.toList) : normalizeIntent intent = intent := by
  have trimmed : trim intent.toList = intent.toList := trim_eq_self normal.start normal.finish
  have lowered : lowercase intent.toList = intent.toList :=
    lowercaseAfter_of_isOwnLower normal.lowered []
  have joined : intent.toList.map lowLine = intent.toList := by
    have same : ∀ character ∈ intent.toList, lowLine character = id character :=
      fun character member => lowLine_of_ne fun space => normal.noSpace (space ▸ member)
    rw [List.map_congr_left same, List.map_id]
  rw [← String.toList_inj, toList_normalizeIntent, trimmed, lowered, joined]

/-- The intents in normal form are just those that normalizing leaves as they are. -/
theorem normalizeIntent_eq_self_iff {intent : String} :
    normalizeIntent intent = intent ↔ IsNormalIntent intent.toList := by
  refine ⟨fun same => ?_, normalizeIntent_of_isNormalIntent⟩
  rw [← same]
  exact isNormalIntent_normalizeIntent intent

/-! ## What does not count -/

theorem normalizeIntent_between_blanks {before after : String}
    (blankBefore : isBlankText before = true) (blankAfter : isBlankText after = true)
    (intent : String) :
    normalizeIntent (before ++ intent ++ after) = normalizeIntent intent := by
  rw [← String.toList_inj, toList_normalizeIntent, toList_normalizeIntent, String.toList_append,
    String.toList_append,
    trim_between_blanks (List.all_eq_true.1 blankBefore) (List.all_eq_true.1 blankAfter)]

theorem normalizeIntent_congr {first second : String}
    (alike : EqualButCase first.toList second.toList) :
    normalizeIntent first = normalizeIntent second := by
  rw [← String.toList_inj, toList_normalizeIntent, toList_normalizeIntent, alike.lowercase_trim]

/-- Normalizing an intent once is enough. What comes out holds no space and no capital of ASCII and
has no white space at its ends, and just the intents in normal form come out as they are. White
space around an intent does not count, and neither does the case of its ASCII letters, whatever
other characters stand among them. -/
theorem normalizeIntent_canonical (intent : String) :
    normalizeIntent (normalizeIntent intent) = normalizeIntent intent ∧
    (∀ character ∈ (normalizeIntent intent).toList,
      character ≠ ' ' ∧ character.isUpper = false) ∧
    (∀ first ∈ (normalizeIntent intent).toList.head?, isBlank first = false) ∧
    (∀ last ∈ (normalizeIntent intent).toList.getLast?, isBlank last = false) ∧
    (normalizeIntent intent = intent ↔ IsNormalIntent intent.toList) ∧
    (∀ before after : String, isBlankText before = true → isBlankText after = true →
      normalizeIntent (before ++ intent ++ after) = normalizeIntent intent) ∧
    ∀ other : String, EqualButCase other.toList intent.toList →
      normalizeIntent other = normalizeIntent intent := by
  have normal := isNormalIntent_normalizeIntent intent
  refine ⟨normalizeIntent_of_isNormalIntent normal, fun character member => ⟨?_, ?_⟩, normal.start,
    normal.finish, normalizeIntent_eq_self_iff, ?_, ?_⟩
  · rintro rfl
    exact normal.noSpace member
  · exact (normal.lowered character member).isUpper_eq_false
  · intro before after blankBefore blankAfter
    exact normalizeIntent_between_blanks blankBefore blankAfter intent
  · intro other alike
    exact normalizeIntent_congr alike

/-- A sigma at the end of a word, a letter that becomes two characters and two kinds of space. -/
theorem normalizeIntent_canonical_of_final_sigma :
    let intent := "Find\u2003ΟΔΟΣ İD"
    let normal := "find\u2003οδος_i\u0307d"
    normalizeIntent intent = normal ∧ normalizeIntent normal = normal ∧
      isBlankText "\n\u3000" = true ∧ isBlankText " \u0085" = true ∧
      normalizeIntent ("\n\u3000" ++ intent ++ " \u0085") = normal ∧
      EqualButCase "fIND\u2003ΟΔΟΣ İd".toList intent.toList ∧
      normalizeIntent "fIND\u2003ΟΔΟΣ İd" = normal := by
  intro intent normal
  have normalized : normalizeIntent intent = normal := by decide +kernel
  have blankBefore : isBlankText "\n\u3000" = true := by decide
  have blankAfter : isBlankText " \u0085" = true := by decide
  have alike : EqualButCase "fIND\u2003ΟΔΟΣ İd".toList intent.toList := by decide
  obtain ⟨twice, -, -, -, -, around, recased⟩ := normalizeIntent_canonical intent
  rw [normalized] at twice around recased
  exact ⟨normalized, twice, blankBefore, blankAfter, around _ _ blankBefore blankAfter, alike,
    recased _ alike⟩

end LibraryScout.Backend
