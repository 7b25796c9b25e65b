import LibraryScout.Proofs.Text.Pieces
import LibraryScout.Url.Reading

/-!
Contract: paths that are written as they are read.

Owns:
- plain paths, of slashes, ASCII letters and digits alone;
- that a plain path is its own path in a URL of the web: nothing in it is encoded, followed or left
  to a query.

Does not own: paths with dots, or with characters that have to be encoded.
-/

namespace LibraryScout.Url

/-! ## Plain characters -/

/-- A letter or digit of ASCII, or a slash. -/
def isPlain (character : Char) : Bool :=
  character.isAlphanum || character = '/'

/-- The characters that end the path of a URL, that do not count in it or that are changed. -/
def isSpecial (character : Char) : Bool :=
  character.toNat ≤ 32 || "\\?#@".toList.contains character || Percent.isControl character ||
    Percent.inPath.contains character || ".%".toList.contains character.toLower

theorem toNat_lt_of_isPlain {character : Char} (plain : isPlain character = true) :
    character.toNat < 128 := by
  rcases Bool.or_eq_true_iff.1 plain with alphanumeric | slash
  · rcases Bool.or_eq_true_iff.1 alphanumeric with alpha | digit
    · rcases Bool.or_eq_true_iff.1 alpha with upper | lower
      · have last : character.val ≤ 'Z'.val := (of_decide_eq_true upper).2
        exact Nat.lt_of_le_of_lt last (by decide)
      · have last : character.val ≤ 'z'.val := of_decide_eq_true (Bool.and_eq_true_iff.1 lower).2
        exact Nat.lt_of_le_of_lt last (by decide)
    · have last : character.val ≤ '9'.val := of_decide_eq_true (Bool.and_eq_true_iff.1 digit).2
      exact Nat.lt_of_le_of_lt last (by decide)
  · obtain rfl := of_decide_eq_true slash
    decide

theorem not_isSpecial_of_isPlain {character : Char} (plain : isPlain character = true) :
    isSpecial character = false :=
  Text.forall_ascii
    (motive := fun character => isPlain character = true → isSpecial character = false)
    (by decide) (toNat_lt_of_isPlain plain) plain

theorem visible_of_isPlain {character : Char} (plain : isPlain character = true) :
    32 < character.toNat := by
  have ordinary := not_isSpecial_of_isPlain plain
  simp only [isSpecial, Bool.or_eq_false_iff, decide_eq_false_iff_not] at ordinary
  exact Nat.not_le.1 ordinary.1.1.1.1

section

variable {text : List Char} (plain : ∀ character ∈ text, isPlain character = true)

include plain

theorem encode_of_plain : Percent.encode Percent.inPath text = text := by
  induction text with
  | nil => rfl
  | cons character later inductionHypothesis =>
      have ordinary := not_isSpecial_of_isPlain (plain character List.mem_cons_self)
      have laterSame := inductionHypothesis fun other member =>
        plain other (List.mem_cons_of_mem character member)
      simp only [isSpecial, Bool.or_eq_false_iff] at ordinary
      obtain ⟨⟨⟨_, noControl⟩, notEncoded⟩, _⟩ := ordinary
      rw [Percent.encode] at laterSame ⊢
      rw [List.flatMap_cons, laterSame, noControl, notEncoded]
      rfl

/-- A plain text holds none of the signs for the directory itself or the one above. -/
theorem not_mem_lowered {mark : Char} (isMark : mark ∈ ".%".toList) :
    mark ∉ text.map Char.toLower := by
  intro member
  obtain ⟨character, here, lowered⟩ := List.mem_map.1 member
  have ordinary := not_isSpecial_of_isPlain (plain character here)
  simp only [isSpecial, Bool.or_eq_false_iff, List.contains_eq_mem, decide_eq_false_iff_not]
    at ordinary
  exact ordinary.2 (lowered ▸ isMark)

theorem not_mem_of_marks {words : List String}
    (marked : words.all (fun word => ".%".toList.any word.toList.contains) = true) :
    String.ofList (text.map Char.toLower) ∉ words := by
  intro member
  obtain ⟨mark, isMark, inside⟩ := List.any_eq_true.1 (List.all_eq_true.1 marked _ member)
  rw [String.toList_ofList, List.contains_iff_mem] at inside
  exact not_mem_lowered plain isMark inside

theorem not_isDot_of_plain : isSingleDot text = false ∧ isDoubleDot text = false :=
  ⟨decide_eq_false (not_mem_of_marks plain (by decide)),
    decide_eq_false (not_mem_of_marks plain (by decide))⟩

end

/-! ## Plain paths -/

/-- A path of slashes, letters and digits of ASCII. -/
structure IsPlainPath (path : List Char) : Prop where
  rooted : path.head? = some '/'
  allPlain : path.all isPlain = true

theorem IsPlainPath.plain {path : List Char} (isPath : IsPlainPath path) :
    ∀ character ∈ path, isPlain character = true :=
  List.all_eq_true.1 isPath.allPlain

theorem IsPlainPath.append {front back : String} (isPath : IsPlainPath front.toList)
    (plain : back.toList.all isPlain = true) : IsPlainPath (front ++ back).toList := by
  constructor
  · rw [String.toList_append, List.head?_append, isPath.rooted]
    rfl
  · rw [String.toList_append, List.all_append, isPath.allPlain, plain]
    rfl

theorem followDots_of_plain {segments : List (List Char)}
    (plain : ∀ segment ∈ segments, ∀ character ∈ segment, isPlain character = true)
    (reached : List (List Char)) : followDots reached segments = reached ++ segments := by
  induction segments generalizing reached with
  | nil => simp [followDots]
  | cons segment later inductionHypothesis =>
      obtain ⟨noSingle, noDouble⟩ := not_isDot_of_plain (plain segment List.mem_cons_self)
      have laterSame := inductionHypothesis fun other member =>
        plain other (List.mem_cons_of_mem segment member)
      cases later with
      | nil => simp [followDots, noSingle, noDouble]
      | cons next others => simp [followDots, noSingle, noDouble, laterSame]

/-- The pieces of a text with a slash before each are the text with one more slash before it. -/
theorem flatMap_cut (text : List Char) :
    (Text.cut '/' text).flatMap (fun segment => '/' :: segment) = '/' :: text := by
  induction text with
  | nil => rfl
  | cons character later inductionHypothesis =>
      by_cases slash : character = '/'
      · rw [Text.cut, if_pos slash, List.flatMap_cons, inductionHypothesis, slash]
        rfl
      · obtain ⟨piece, pieces, cut⟩ := List.exists_cons_of_ne_nil (Text.cut_ne_nil '/' later)
        rw [cut, List.flatMap_cons] at inductionHypothesis
        rw [Text.cut, if_neg slash, cut]
        simpa using inductionHypothesis

theorem pathText_of_plain {path : List Char} (isPath : IsPlainPath path) :
    pathText true path = String.ofList path := by
  have plain := isPath.plain
  obtain ⟨inner, rfl⟩ := List.head?_eq_some_iff.1 isPath.rooted
  have sameSlashes : ('/' :: inner).map
      (fun character => if character = '\\' then '/' else character) = '/' :: inner := by
    refine (List.map_congr_left fun character member => ?_).trans (List.map_id _)
    refine if_neg ?_
    rintro rfl
    exact absurd (plain _ member) (by decide)
  have piecesPlain : ∀ segment ∈ Text.cut '/' inner, ∀ character ∈ segment,
      isPlain character = true := by
    intro segment member character inSegment
    have inInner := (Text.infix_of_mem_cut member).subset inSegment
    exact plain character (List.mem_cons_of_mem '/' inInner)
  have written : (Text.cut '/' inner).map (fun segment =>
        "/" ++ String.ofList (Percent.encode Percent.inPath segment)) =
      (Text.cut '/' inner).map fun segment => String.ofList ('/' :: segment) := by
    refine List.map_congr_left fun segment member => ?_
    rw [encode_of_plain (piecesPlain segment member), String.ofList_cons]
    rfl
  unfold pathText
  simp only [if_true, sameSlashes, followDots_of_plain piecesPlain, List.nil_append]
  rw [written, ← String.toList_inj, String.toList_join, String.toList_ofList, ← flatMap_cut inner,
    List.flatMap_map]
  simp only [String.toList_ofList]

/-- A plain path has no query or fragment after it. -/
theorem splitPath_of_plain {path : List Char}
    (plain : ∀ character ∈ path, isPlain character = true) : splitPath path = (path, []) := by
  have inside : ∀ character ∈ path, (character ≠ '?' && character ≠ '#') = true := by
    intro character member
    have noQuery : character ≠ '?' := by
      rintro rfl
      exact absurd (plain _ member) (by decide)
    have noFragment : character ≠ '#' := by
      rintro rfl
      exact absurd (plain _ member) (by decide)
    simp [noQuery, noFragment]
  unfold splitPath
  rw [Prod.mk.injEq]
  exact ⟨List.takeWhile_eq_self_iff.2 inside, List.dropWhile_eq_nil_iff.2 inside⟩

end LibraryScout.Url
