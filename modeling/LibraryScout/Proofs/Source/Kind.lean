import LibraryScout.Proofs.Text.Lowercase
import LibraryScout.Source.Kind

/-!
Contract: what in a path decides the kind of its file.

Only the text from the last point on counts. A slash in it means that the point belongs to a
directory, and no kind has a suffix with a slash; so the directories before a file name never
change the kind of the file, whatever points they hold themselves.
-/

namespace LibraryScout.Text

/-! ## Lower case -/

theorem slash_mem_lowercase {text : List Char} (slash : '/' ∈ text) : '/' ∈ lowercase text :=
  mem_lowercaseAfter (by decide) slash

/-! ## The text from the last point on -/

section

variable {separator : Char} {after : List Char} (before : List Char)

/-- What stands before a text with a separator does not change where the last one is. -/
theorem fromLast?_append_of_mem (member : separator ∈ after) :
    fromLast? separator (before ++ after) = fromLast? separator after := by
  have stops : (after.reverse.takeWhile fun character => character ≠ separator).length ≠
      after.reverse.length := by
    intro whole
    have all := List.takeWhile_eq_self_iff.1
      ((List.takeWhile_prefix fun character => decide (character ≠ separator)).eq_of_length whole)
    simpa using all separator (List.mem_reverse.2 member)
  rw [fromLast?, fromLast?, if_pos (List.mem_append_right before member), if_pos member,
    List.reverse_append, List.takeWhile_append, if_neg stops]

/-- A text without a separator is part of whatever stands from the last separator on. -/
theorem mem_fromLast?_append (absent : separator ∉ after) {suffix : List Char}
    (found : fromLast? separator (before ++ after) = some suffix) {character : Char}
    (member : character ∈ after) : character ∈ suffix := by
  have inside := differs_of_not_mem (mt List.mem_reverse.1 absent)
  rw [fromLast?, Option.ite_none_right_eq_some, List.reverse_append,
    List.takeWhile_append_of_pos inside, List.reverse_append, List.reverse_reverse,
    Option.some.injEq] at found
  rw [← found.2]
  exact List.mem_cons_of_mem separator (List.mem_append_right _ member)

end

end LibraryScout.Text

namespace LibraryScout.Source

/-! ## Kinds -/

/-- No kind has a suffix with a slash in it. -/
theorem Kind.ofSuffix_of_slash {suffix : String} (slash : '/' ∈ suffix.toList) :
    ofSuffix suffix = .unsupported := by
  have kept : '/' ∈ (Text.lowercased suffix).toList := by
    rw [Text.lowercased, String.toList_ofList]
    exact Text.slash_mem_lowercase slash
  have none : all.find? (fun kind => kind.suffix? == some (Text.lowercased suffix)) = none := by
    rw [List.find?_eq_none]
    intro kind _ isSuffix
    have same : kind.suffix? = some (Text.lowercased suffix) := by simpa using isSuffix
    have noSlash : ∀ written ∈ kind.suffix?, '/' ∉ written.toList := by
      cases kind <;> decide
    exact noSlash _ same kept
  rw [ofSuffix, none]

/-- The directories before a file name do not change its kind. -/
theorem classify_below (above name : String) :
    classify (above ++ "/" ++ name) = classify name := by
  have written : (above ++ "/" ++ name).toList = (above.toList ++ ['/']) ++ name.toList := by
    rw [String.toList_append, String.toList_append]
    rfl
  by_cases point : '.' ∈ name.toList
  · rw [classify, classify, fileSuffix?, fileSuffix?, written,
      Text.fromLast?_append_of_mem _ point]
  · have noSuffix : classify name = .unsupported := by
      rw [classify, fileSuffix?, Text.fromLast?, if_neg point]
      rfl
    rw [noSuffix, classify, fileSuffix?, written, List.append_assoc]
    cases found : Text.fromLast? '.' (above.toList ++ (['/'] ++ name.toList)) with
    | none => rfl
    | some suffix =>
        -- the last point stands before the slash, so the slash is part of the suffix
        have slash : '/' ∈ suffix :=
          Text.mem_fromLast?_append above.toList (by simpa using point) found (by simp)
        apply Kind.ofSuffix_of_slash
        rw [String.toList_ofList]
        exact Text.slash_mem_lowercase slash

end LibraryScout.Source
