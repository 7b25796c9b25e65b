import LibraryScout.Proofs.Source.Kind

/-!
Contract: which file names are of a kind.

Owns:
- `HasSuffix`, the names that end with the suffix of a kind, the case of ASCII letters aside;
- that these are the names of that kind, and that neither the text before the last point nor the
  case of letters counts.

Names are put into full lower case, and suffixes once more. What comes out could have come from
letters beyond ASCII; but no suffix holds one of the two letters for which this happens.
-/

namespace LibraryScout.Text

theorem fromLast?_of_append {separator : Char} {after : List Char} (absent : separator ∉ after)
    (before : List Char) :
    fromLast? separator (before ++ separator :: after) = some (separator :: after) := by
  have inside : after.reverse.takeWhile (fun character => character ≠ separator) =
      after.reverse :=
    List.takeWhile_eq_self_iff.2 (differs_of_not_mem (mt List.mem_reverse.1 absent))
  rw [fromLast?, if_pos (by simp), List.reverse_append, List.reverse_cons, List.append_assoc,
    List.singleton_append, takeWhile_append_stop (by simp), inside, List.reverse_reverse]

theorem exists_last_of_mem {separator : Char} {text : List Char} (member : separator ∈ text) :
    ∃ before after, text = before ++ separator :: after ∧ separator ∉ after := by
  obtain ⟨behind, front, turned, absent⟩ :=
    List.eq_append_cons_of_mem (List.mem_reverse.2 member)
  refine ⟨front.reverse, behind.reverse, ?_, fun inside => absent (List.mem_reverse.1 inside)⟩
  rw [← List.reverse_reverse text, turned]
  simp

/-- A text that is put into lower case twice comes to a text of small letters that come from ASCII
only if it is that text but for the case of ASCII letters, and only then. -/
theorem lowercased_lowercase_eq_iff {suffix : String}
    (own : ∀ character ∈ suffix.toList, isOwnAscii character = true)
    (small : suffix.toList.map Char.toLower = suffix.toList) (text : List Char) :
    lowercased (String.ofList (lowercase text)) = suffix ↔ EqualButCase text suffix.toList := by
  rw [lowercased, String.toList_ofList, ← String.toList_inj, String.toList_ofList, lowercase,
    lowercaseAfter_eq_iff own, lowercase, map_toLower_lowercaseAfter_eq_iff own, EqualButCase,
    small]

end LibraryScout.Text

namespace LibraryScout.Source

open LibraryScout.Text

/-! ## Suffixes -/

namespace Kind

theorem mem_all (kind : Kind) : kind ∈ all := by
  cases kind <;> decide

/-- Kinds with the same suffix are the same. -/
theorem eq_of_suffix? {first second : Kind} {suffix : String}
    (isFirst : first.suffix? = some suffix) (isSecond : second.suffix? = some suffix) :
    first = second := by
  have apart : ∀ first ∈ all, ∀ second ∈ all, first.suffix?.isSome = true →
      first.suffix? = second.suffix? → first = second := by
    decide
  apply apart first (mem_all first) second (mem_all second)
  · rw [isFirst]
    rfl
  · rw [isFirst, isSecond]

theorem ofSuffix_eq_iff {kind : Kind} (supported : kind.isSupported = true) {suffix : String} :
    ofSuffix suffix = kind ↔ kind.suffix? = some (lowercased suffix) := by
  unfold ofSuffix
  cases found : all.find? fun kind => kind.suffix? == some (lowercased suffix) with
  | none =>
      have noKind := List.find?_eq_none.1 found kind (mem_all kind)
      constructor
      · rintro rfl
        cases supported
      · exact fun isSuffix => absurd (beq_iff_eq.2 isSuffix) noKind
  | some other =>
      have isOther := List.find?_some found
      have otherSuffix : other.suffix? = some (lowercased suffix) := by simpa using isOther
      constructor
      · rintro rfl
        exact otherSuffix
      · exact fun isSuffix => eq_of_suffix? otherSuffix isSuffix

/-- No suffix holds a letter that a letter beyond ASCII has in its lower case, or a capital one. -/
theorem isOwnAscii_of_suffix? {kind : Kind} {suffix : String}
    (isSuffix : kind.suffix? = some suffix) :
    (∀ character ∈ suffix.toList, isOwnAscii character = true) ∧
      suffix.toList.map Char.toLower = suffix.toList := by
  have every : (all.all fun kind => kind.suffix?.all fun suffix =>
      suffix.toList.all isOwnAscii && suffix.toList.map Char.toLower == suffix.toList) = true := by
    decide
  have checked := List.all_eq_true.1 every kind (mem_all kind)
  rw [isSuffix, Option.all_some, Bool.and_eq_true, beq_iff_eq] at checked
  exact ⟨List.all_eq_true.1 checked.1, checked.2⟩

end Kind

/-- A name ends with the suffix of a kind: from the last point on it is this suffix, the case of
ASCII letters aside. -/
def HasSuffix (kind : Kind) (fileName : String) : Prop :=
  ∃ suffix ∈ kind.suffix?, ∃ before after, fileName.toList = before ++ '.' :: after ∧
    '.' ∉ after ∧ EqualButCase ('.' :: after) suffix.toList

/-! ## Names -/

theorem classify_of_no_point {fileName : String} (noPoint : '.' ∉ fileName.toList) :
    classify fileName = .unsupported := by
  rw [classify, fileSuffix?, fromLast?, if_neg noPoint]
  rfl

theorem classify_of_written {fileName : String} {before after : List Char}
    (written : fileName.toList = before ++ '.' :: after) (noPoint : '.' ∉ after) :
    classify fileName = Kind.ofSuffix (String.ofList (lowercase ('.' :: after))) := by
  rw [classify, fileSuffix?, written, fromLast?_of_append noPoint]
  rfl

/-- What stands from the last point on decides about the kind. -/
theorem classify_of_written_eq_iff {kind : Kind} (supported : kind.isSupported = true)
    {fileName : String} {before after : List Char}
    (written : fileName.toList = before ++ '.' :: after) (noPoint : '.' ∉ after) :
    classify fileName = kind ↔
      ∃ suffix ∈ kind.suffix?, EqualButCase ('.' :: after) suffix.toList := by
  rw [classify_of_written written noPoint, Kind.ofSuffix_eq_iff supported]
  constructor
  · intro isSuffix
    obtain ⟨own, small⟩ := Kind.isOwnAscii_of_suffix? isSuffix
    exact ⟨_, isSuffix, (lowercased_lowercase_eq_iff own small _).1 rfl⟩
  · rintro ⟨suffix, isSuffix, alike⟩
    obtain ⟨own, small⟩ := Kind.isOwnAscii_of_suffix? isSuffix
    rw [(lowercased_lowercase_eq_iff own small _).2 alike]
    exact isSuffix

/-- A name is of a supported kind if it has the suffix of that kind, and only then. -/
theorem classify_eq_iff {kind : Kind} (supported : kind.isSupported = true) (fileName : String) :
    classify fileName = kind ↔ HasSuffix kind fileName := by
  constructor
  · intro isKind
    by_cases point : '.' ∈ fileName.toList
    · obtain ⟨before, after, written, noPoint⟩ := exists_last_of_mem point
      obtain ⟨suffix, isSuffix, alike⟩ :=
        (classify_of_written_eq_iff supported written noPoint).1 isKind
      exact ⟨suffix, isSuffix, before, after, written, noPoint, alike⟩
    · rw [classify_of_no_point point] at isKind
      rw [← isKind] at supported
      cases supported
  · rintro ⟨suffix, isSuffix, before, after, written, noPoint, alike⟩
    exact (classify_of_written_eq_iff supported written noPoint).2 ⟨suffix, isSuffix, alike⟩

theorem Kind.eq_unsupported_iff {kind : Kind} : kind = .unsupported ↔ kind.isSupported = false := by
  cases kind <;> simp [isSupported]

/-- A name is of no supported kind if it has the suffix of none. -/
theorem classify_eq_unsupported_iff (fileName : String) :
    classify fileName = .unsupported ↔
      ∀ kind : Kind, kind.isSupported = true → ¬ HasSuffix kind fileName := by
  constructor
  · intro unsupported kind supported has
    rw [(classify_eq_iff supported fileName).2 has] at unsupported
    rw [unsupported] at supported
    cases supported
  · intro none
    rw [Kind.eq_unsupported_iff, Bool.eq_false_iff]
    intro supported
    exact none _ supported ((classify_eq_iff supported fileName).1 rfl)

/-- Kinds are the same if they are the same supported kind or neither is one. -/
theorem Kind.eq_of_supported {first second : Kind}
    (alike : ∀ kind : Kind, kind.isSupported = true → (first = kind ↔ second = kind)) :
    first = second := by
  cases supported : first.isSupported with
  | true => exact ((alike first supported).1 rfl).symm
  | false =>
      cases otherSupported : second.isSupported with
      | true => exact (alike second otherSupported).2 rfl
      | false =>
          rw [eq_unsupported_iff.2 supported, eq_unsupported_iff.2 otherSupported]

theorem eq_point_of_toLower {character : Char} (lower : character.toLower = '.') :
    character = '.' := by
  by_cases ascii : character.toNat < 0x80
  · exact forall_ascii (motive := fun character => character.toLower = '.' → character = '.')
      (by decide) ascii lower
  · rwa [toLower_of_beyond (Nat.not_lt.1 ascii)] at lower

/-- The lower case of a name has its last point before the lower case of what stood there. -/
theorem exists_lowercased_written {fileName : String} {before after : List Char}
    (written : fileName.toList = before ++ '.' :: after) (noPoint : '.' ∉ after) :
    ∃ front back context, (lowercased fileName).toList = front ++ '.' :: back ∧ '.' ∉ back ∧
      '.' :: back = lowercaseAfter context ('.' :: after) := by
  obtain ⟨front, split⟩ := exists_lowercaseAfter_append [] before ('.' :: after)
  refine ⟨front, lowercaseAfter ('.' :: (before.reverse ++ [])) after, before.reverse ++ [],
    ?_, fun member => noPoint (mem_of_mem_lowercaseAfter rfl (fun _ => eq_point_of_toLower) member),
    ?_⟩
  · rw [lowercased, String.toList_ofList, lowercase, written, split, lowercaseAfter_cons,
      lowerImage_of_ascii (by decide)]
    rfl
  · rw [lowercaseAfter_cons, lowerImage_of_ascii (by decide)]
    rfl

/-- The case of a name does not count. -/
theorem classify_lowercased (fileName : String) :
    classify (lowercased fileName) = classify fileName := by
  by_cases point : '.' ∈ fileName.toList
  · obtain ⟨before, after, written, noPoint⟩ := exists_last_of_mem point
    obtain ⟨front, back, context, lower, noOther, image⟩ :=
      exists_lowercased_written written noPoint
    apply Kind.eq_of_supported
    intro kind supported
    rw [classify_of_written_eq_iff supported lower noOther,
      classify_of_written_eq_iff supported written noPoint, image]
    refine exists_congr fun suffix => and_congr_right fun isSuffix => ?_
    obtain ⟨own, small⟩ := Kind.isOwnAscii_of_suffix? isSuffix
    rw [EqualButCase, EqualButCase, small, map_toLower_lowercaseAfter_eq_iff own]
  · have noPoint : '.' ∉ (lowercased fileName).toList := by
      rw [lowercased, String.toList_ofList]
      exact fun member =>
        point (mem_of_mem_lowercaseAfter rfl (fun _ => eq_point_of_toLower) member)
    rw [classify_of_no_point noPoint, classify_of_no_point point]

/-- What stands before a point does not count. -/
theorem classify_behind (before after : String) :
    classify (before ++ "." ++ after) = classify ("." ++ after) := by
  have point : '.' ∈ ("." ++ after).toList := by simp
  obtain ⟨front, back, written, noPoint⟩ := exists_last_of_mem point
  have longer : (before ++ "." ++ after).toList = (before.toList ++ front) ++ '.' :: back := by
    rw [String.append_assoc, String.toList_append, written, List.append_assoc]
  rw [classify_of_written longer noPoint, classify_of_written written noPoint]

/-- No suffix of a kind holds a letter beyond ASCII, whatever that letter is in lower case. -/
theorem classify_of_beyond {fileName : String} {before after : List Char}
    (written : fileName.toList = before ++ '.' :: after) (noPoint : '.' ∉ after)
    {character : Char} (member : character ∈ after) (beyond : 0x80 ≤ character.toNat) :
    classify fileName = .unsupported := by
  rw [Kind.eq_unsupported_iff, Bool.eq_false_iff]
  intro supported
  obtain ⟨suffix, isSuffix, alike⟩ := (classify_of_written_eq_iff supported written noPoint).1 rfl
  obtain ⟨own, small⟩ := Kind.isOwnAscii_of_suffix? isSuffix
  have inSuffix : character ∈ suffix.toList := by
    rw [← small, ← alike, ← toLower_of_beyond beyond]
    exact List.mem_map_of_mem (List.mem_cons_of_mem '.' member)
  have isOwn := own character inSuffix
  simp [isOwnAscii, Nat.not_lt.2 beyond] at isOwn

/-- The kind of a file is read off its name from the last point on, the case of ASCII letters aside.
Lower-casing the name first changes nothing, letters beyond ASCII never make a suffix, and neither
does what stands before the last point. -/
theorem classify_by_suffix (fileName : String) :
    (∀ kind : Kind, kind.isSupported = true →
      (classify fileName = kind ↔ HasSuffix kind fileName)) ∧
    (classify fileName = .unsupported ↔
      ∀ kind : Kind, kind.isSupported = true → ¬ HasSuffix kind fileName) ∧
    (∀ before after, fileName.toList = before ++ '.' :: after → '.' ∉ after →
      (∃ character ∈ after, 0x80 ≤ character.toNat) → classify fileName = .unsupported) ∧
    classify (lowercased fileName) = classify fileName ∧
    ∀ before after, fileName = before ++ "." ++ after →
      ∀ other, classify (other ++ "." ++ after) = classify fileName := by
  refine ⟨fun kind supported => classify_eq_iff supported fileName,
    classify_eq_unsupported_iff fileName, ?_, classify_lowercased fileName, ?_⟩
  · rintro before after written noPoint ⟨character, member, beyond⟩
    exact classify_of_beyond written noPoint member beyond
  · rintro before after rfl other
    rw [classify_behind, classify_behind]

/-- Capitals count as small letters, and a Greek letter in the place of a Latin one does not. -/
theorem classify_by_suffix_mixed :
    HasSuffix .java "Straße.min.JaVA" ∧ classify "Straße.min.JaVA" = .java ∧
      classify "Main.jaνa" = .unsupported := by
  have isSuffix : HasSuffix .java "Straße.min.JaVA" :=
    ⟨".java", rfl, "Straße.min".toList, "JaVA".toList, by decide, by decide, by decide⟩
  refine ⟨isSuffix, ((classify_by_suffix "Straße.min.JaVA").1 .java rfl).2 isSuffix, ?_⟩
  apply (classify_by_suffix "Main.jaνa").2.2.1 "Main".toList "jaνa".toList (by decide) (by decide)
  exact ⟨'ν', by decide, by decide⟩

end LibraryScout.Source
