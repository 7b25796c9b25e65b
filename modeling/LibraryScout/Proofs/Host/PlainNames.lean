import LibraryScout.Proofs.Files.Node
import LibraryScout.Proofs.Host.Characters
import LibraryScout.Proofs.Url.Percent
import LibraryScout.Url.Reading

/-!
Contract: plain host names, which are read as they are written.

Owns:
- that no character of ASCII makes a name one with right-to-left writing, which is all that the
  table of directions has to say about such names;
- `IsPlainName`, and that a plain name is its own form in ASCII and names the host of that name.

Does not own: names beyond ASCII, and labels that stand for such.
-/

namespace LibraryScout.Host

open LibraryScout.Unicode

/-! ## Direction -/

/-- No row of a line of directions gives a character of ASCII a class of right-to-left writing. -/
def leavesAscii (line : List Char) : Bool :=
  (Text.cut ' ' line).all fun row =>
    match (Text.cut '.' row).map hexNumber with
    | [first, _, number] => 128 ≤ first || 3 < number
    | _ => true

/-- A line of a table is looked at character by character, without taking it for bytes first. -/
theorem leavesAscii_toList {letters : List Char} (leaves : leavesAscii letters = true) :
    leavesAscii (String.ofList letters).toList = true := by
  rw [String.toList_ofList, leaves]

theorem leavesAscii_directionRows : ∀ line ∈ directionRows, leavesAscii line.toList = true := by
  unfold directionRows
  simp only [List.forall_mem_cons]
  repeat refine ⟨leavesAscii_toList (by decide +kernel), ?_⟩
  exact fun _ nothing => absurd nothing List.not_mem_nil

theorem mem_classes {lines : List String} {row : Nat × Nat × Nat} (member : row ∈ classes lines) :
    ∃ line ∈ lines, ∃ piece ∈ Text.cut ' ' line.toList,
      (Text.cut '.' piece).map hexNumber = [row.1, row.2.1, row.2.2] := by
  rw [classes, List.mem_filterMap] at member
  obtain ⟨numbers, written, same⟩ := member
  rw [rows, List.mem_flatMap] at written
  obtain ⟨line, lineMember, pieceMember⟩ := written
  obtain ⟨piece, isPiece, rfl⟩ := List.mem_map.1 pieceMember
  refine ⟨line, lineMember, piece, isPiece, ?_⟩
  split at same
  next first last number three =>
    obtain rfl := Option.some.inj same
    exact three
  next => cases same

theorem directionOf_of_ascii {character : Char} (ascii : character.toNat < 128) :
    directionOf character ∉ [Direction.rightToLeft, .arabicLetter, .arabicDigit] := by
  unfold directionOf
  cases found : classOf? directions character with
  | none => decide
  | some number =>
      obtain ⟨⟨first, last, number⟩, foundRow, rfl⟩ := Option.map_eq_some_iff.1 found
      have inRow := List.find?_some foundRow
      obtain ⟨line, lineMember, piece, isPiece, numbers⟩ :=
        mem_classes (List.mem_of_find?_eq_some foundRow)
      have leaves := leavesAscii_directionRows line lineMember
      rw [leavesAscii, List.all_eq_true] at leaves
      have beyond := leaves piece isPiece
      simp only [numbers, Bool.or_eq_true, decide_eq_true_eq] at beyond
      simp only [Bool.and_eq_true, decide_eq_true_eq] at inRow
      have later : 3 < number := by omega
      split
      next one => cases one; exact absurd later (by decide)
      next two => cases two; exact absurd later (by decide)
      next three => cases three; exact absurd later (by decide)
      all_goals decide

theorem not_isRightToLeft_of_ascii {label : List Char}
    (ascii : ∀ character ∈ label, character.toNat < 128) : isRightToLeft label = false := by
  rw [isRightToLeft, List.any_eq_false]
  intro character member isRight
  exact directionOf_of_ascii (ascii character member) (of_decide_eq_true isRight)

/-! ## Names -/

/-- A name of labels in small letters, digits and other marks of ASCII, none of which stands for a
label beyond ASCII. -/
structure IsPlainName (name : List Char) : Prop where
  ascii : ∀ character ∈ name, character.toNat < 128
  small : ∀ character ∈ name, character.toLower = character
  allowed : ∀ character ∈ name, Domain.isDenied character = false
  itself : ∀ label ∈ Text.cut '.' name, Domain.asciiPrefix.isPrefixOf label = false

theorem isPlainName_iff {name : List Char} :
    ((name.all fun character => character.toNat < 128 && character.toLower == character &&
      !Domain.isDenied character) && (Text.cut '.' name).all fun label =>
        !Domain.asciiPrefix.isPrefixOf label) = true ↔ IsPlainName name := by
  simp only [Bool.and_eq_true, List.all_eq_true, decide_eq_true_eq, beq_iff_eq,
    Bool.not_eq_true']
  constructor
  · rintro ⟨characters, labels⟩
    exact ⟨fun character member => (characters character member).1.1,
      fun character member => (characters character member).1.2,
      fun character member => (characters character member).2, labels⟩
  · rintro ⟨ascii, small, allowed, itself⟩
    exact ⟨fun character member =>
      ⟨⟨ascii character member, small character member⟩, allowed character member⟩, itself⟩

instance (name : List Char) : Decidable (IsPlainName name) :=
  decidable_of_iff _ isPlainName_iff

theorem mapM_eq_some_map {α β : Type} {read : α → Option β} (made : α → β) {values : List α}
    (all : ∀ value ∈ values, read value = some (made value)) :
    values.mapM read = some (values.map made) := by
  induction values with
  | nil => rfl
  | cons first later inductionHypothesis =>
      rw [List.mapM_cons, all first List.mem_cons_self,
        inductionHypothesis (List.forall_mem_of_forall_mem_cons all)]
      rfl

namespace IsPlainName

variable {name : List Char} (plain : IsPlainName name)

include plain

theorem normalized? : normalized? name = some name := by
  have read : ∀ character ∈ name, Mapping.characters? character = some [character] := by
    intro character member
    rw [Mapping.characters?, if_pos (plain.ascii character member),
      plain.small character member]
  have composedAlready : composed name = name := by
    rw [composed, if_pos]
    refine List.all_eq_true.2 fun character member => ?_
    exact decide_eq_true (Nat.lt_trans (plain.ascii character member) (by decide))
  rw [Host.normalized?, mapM_eq_some_map _ read, Option.map_some, ← List.flatMap_def,
    List.flatMap_singleton', composedAlready]

/-- Every label is of ASCII, and stands for itself. -/
theorem label {label : List Char} (member : label ∈ Text.cut '.' name) :
    Domain.readLabel? label = some label ∧ Domain.writeLabel? label = some label ∧
      isRightToLeft label = false := by
  have ascii : ∀ character ∈ label, character.toNat < 128 :=
    fun character inside => plain.ascii character (Text.mem_of_mem_cut member inside)
  have isAscii : Domain.isAscii label = true := by simpa [Domain.isAscii] using ascii
  refine ⟨?_, ?_, not_isRightToLeft_of_ascii ascii⟩
  · simp [Domain.readLabel?, plain.itself label member, isAscii]
  · simp [Domain.writeLabel?, isAscii]

/-- A plain name is its own form in ASCII. -/
theorem toAscii? : Domain.toAscii? name = some name := by
  have nothingDenied : name.any Domain.isDenied = false :=
    List.any_eq_false.2 fun character member => by simp [plain.allowed character member]
  have nothingDeniedInLabels :
      ((Text.cut '.' name).any fun label => label.any Domain.isDenied) = false := by
    refine List.any_eq_false.2 fun label member => ?_
    rw [Bool.not_eq_true, List.any_eq_false]
    intro character inside
    simp [plain.allowed character (Text.mem_of_mem_cut member inside)]
  have leftToRight : (Text.cut '.' name).any isRightToLeft = false :=
    List.any_eq_false.2 fun label member => by simp [(plain.label member).2.2]
  have read : (Text.cut '.' name).mapM Domain.readLabel? = some (Text.cut '.' name) := by
    simpa using mapM_eq_some_map id fun label member => (plain.label member).1
  have written : (Text.cut '.' name).mapM Domain.writeLabel? = some (Text.cut '.' name) := by
    simpa using mapM_eq_some_map id fun label member => (plain.label member).2.1
  simp only [Domain.toAscii?, plain.normalized?, nothingDenied, read, nothingDeniedInLabels,
    leftToRight, written, Text.intercalate_cut, Option.bind_eq_bind, Option.bind_some,
    Bool.false_eq_true, Bool.false_and, if_false, Option.pure_def]

end IsPlainName

end LibraryScout.Host

namespace LibraryScout.Url

open LibraryScout.Host

/-- A plain name that is no number names the host of that name. -/
theorem webHost_of_isPlainName {name : List Char} (plain : IsPlainName name) (nonempty : name ≠ [])
    (noNumber : Ipv4.endsInNumber name = false) :
    webHost name = .ok (.domain (String.ofList name)) := by
  have noBracket : name.head? ≠ some '[' := fun bracket =>
    absurd (plain.allowed '[' (List.mem_of_head? bracket)) (by decide)
  have noSign : '%' ∉ name := fun sign => absurd (plain.allowed '%' sign) (by decide)
  have bytes : ByteArray.mk (Percent.decode name).toArray = (String.ofList name).toUTF8 := by
    rw [Percent.decode_of_not_mem noSign]
    ext1
    rw [String.toUTF8_eq_toByteArray, String.toByteArray_ofList, List.utf8Encode,
      List.data_toByteArray]
  have decoded := Files.fromUTF8?_eq_some_iff.2 bytes.symm
  obtain ⟨first, later, rfl⟩ := List.exists_cons_of_ne_nil nonempty
  rw [webHost, if_neg noBracket, decoded]
  simp only [String.toList_ofList, plain.toAscii?, noNumber]
  rfl

end LibraryScout.Url
