import LibraryScout.Text.Blank
import LibraryScout.Text.Lines
import LibraryScout.Text.Word
import Mathlib.Data.List.TakeWhile

/-!
Contract: what the pieces of a text are made of, and where they stand in it.

Owns:
- runs: a text is a longest run of characters of a class and the rest of it in one way only;
- pieces: what cutting, trimming and taking a token leave is a part of the text, free of the
  characters at which it was cut, and the pieces between separators make up the text again;
- the classes: a word character is neither white space nor one of the marks that separate names.
-/

namespace LibraryScout.Text

/-! ## Runs -/

/-- A text does not go on with a character of a class. -/
def StopsBefore (inClass : Char → Bool) (text : List Char) : Prop :=
  ∀ character ∈ text.head?, inClass character = false

theorem takeWhile_run {inClass : Char → Bool} {run rest : List Char}
    (inside : ∀ character ∈ run, inClass character = true) (stops : StopsBefore inClass rest) :
    (run ++ rest).takeWhile inClass = run := by
  rw [List.takeWhile_append_of_pos inside]
  cases rest with
  | nil => simp
  | cons character later =>
      have outside : ¬ inClass character = true := by
        simp [stops character (by simp)]
      rw [List.takeWhile_cons_of_neg outside, List.append_nil]

theorem dropWhile_run {inClass : Char → Bool} {run rest : List Char}
    (inside : ∀ character ∈ run, inClass character = true) (stops : StopsBefore inClass rest) :
    (run ++ rest).dropWhile inClass = rest := by
  rw [List.dropWhile_append_of_pos inside]
  cases rest with
  | nil => rfl
  | cons character later =>
      have outside : ¬ inClass character = true := by
        simp [stops character (by simp)]
      rw [List.dropWhile_cons_of_neg outside]

theorem dropWhile_of_stopsBefore {inClass : Char → Bool} {text : List Char}
    (stops : StopsBefore inClass text) : text.dropWhile inClass = text := by
  have nothing : ∀ character ∈ ([] : List Char), inClass character = true := by simp
  exact dropWhile_run nothing stops

theorem stopsBefore_dropWhile (inClass : Char → Bool) (text : List Char) :
    StopsBefore inClass (text.dropWhile inClass) := by
  intro character first
  have stop := List.head?_dropWhile_not inClass text
  rw [Option.mem_def] at first
  simpa [first] using stop

/-- Before a character outside its class a run ends, whatever follows. -/
theorem takeWhile_append_stop {inClass : Char → Bool} {stop : Char}
    (outside : inClass stop = false) (text rest : List Char) :
    (text ++ stop :: rest).takeWhile inClass = text.takeWhile inClass := by
  rw [List.takeWhile_append]
  split
  next whole =>
    have all : text.takeWhile inClass = text := (List.takeWhile_prefix inClass).eq_of_length whole
    rw [List.takeWhile_cons_of_neg (by simp [outside]), List.append_nil, all]
  next => rfl

theorem dropWhile_append_stop {inClass : Char → Bool} {stop : Char}
    (outside : inClass stop = false) (text rest : List Char) :
    (text ++ stop :: rest).dropWhile inClass = text.dropWhile inClass ++ stop :: rest := by
  rw [List.dropWhile_append]
  split
  next nothing =>
    rw [List.isEmpty_iff.1 nothing, List.dropWhile_cons_of_neg (by simp [outside]),
      List.nil_append]
  next => rfl

/-! ## Pieces -/

theorem upTo_isPrefix (separator : Char) (text : List Char) : upTo separator text <+: text :=
  List.takeWhile_prefix _

theorem not_mem_upTo (separator : Char) (text : List Char) : separator ∉ upTo separator text := by
  intro member
  simpa using List.mem_takeWhile_imp member

theorem differs_of_not_mem {separator : Char} {text : List Char} (absent : separator ∉ text) :
    ∀ character ∈ text, decide (character ≠ separator) = true := by
  intro character member
  refine decide_eq_true ?_
  rintro rfl
  exact absent member

/-- A piece of a cut text is a part of it, and the first piece starts it. -/
theorem infix_of_mem_cut {separator : Char} {text piece : List Char}
    (member : piece ∈ cut separator text) : piece <:+: text := by
  have placed : (∀ first ∈ (cut separator text).head?, first <+: text) ∧
      ∀ piece ∈ cut separator text, piece <:+: text := by
    clear member
    induction text with
    | nil => simp [cut]
    | cons character rest inductionHypothesis =>
        obtain ⟨starts, inside⟩ := inductionHypothesis
        rw [cut]
        split
        · refine ⟨by simp, ?_⟩
          intro other otherMember
          rcases List.mem_cons.1 otherMember with rfl | later
          · exact List.nil_infix
          · exact (inside other later).trans (List.suffix_cons character rest).isInfix
        · cases equation : cut separator rest with
          | nil => exact absurd equation (cut_ne_nil separator rest)
          | cons first others =>
              rw [equation] at starts inside
              have extended : character :: first <+: character :: rest :=
                List.cons_prefix_cons.2 ⟨rfl, starts first (by simp)⟩
              refine ⟨by simpa using extended, ?_⟩
              intro other otherMember
              rcases List.mem_cons.1 otherMember with rfl | later
              · exact extended.isInfix
              · exact (inside other (List.mem_cons_of_mem first later)).trans
                  (List.suffix_cons character rest).isInfix
  exact placed.2 piece member

theorem mem_of_mem_cut {separator character : Char} {text piece : List Char}
    (member : piece ∈ cut separator text) (inside : character ∈ piece) : character ∈ text :=
  (infix_of_mem_cut member).subset inside

theorem cut_append_separator (separator : Char) (first second : List Char) :
    cut separator (first ++ separator :: second) = cut separator first ++ cut separator second := by
  induction first with
  | nil => simp [cut]
  | cons character rest inductionHypothesis =>
      rw [List.cons_append, cut, cut, inductionHypothesis]
      split
      · rfl
      · cases pieces : cut separator rest with
        | nil => exact absurd pieces (cut_ne_nil separator rest)
        | cons piece others => rfl

/-- One more character belongs to the last piece. -/
theorem exists_cut_concat {separator character : Char} (different : character ≠ separator)
    (text : List Char) :
    ∃ front last, cut separator text = front ++ [last] ∧
      cut separator (text ++ [character]) = front ++ [last ++ [character]] := by
  induction text with
  | nil => exact ⟨[], [], rfl, by simp [cut, different]⟩
  | cons first later inductionHypothesis =>
      obtain ⟨front, last, pieces, piecesThere⟩ := inductionHypothesis
      rw [List.cons_append, cut, cut, pieces, piecesThere]
      by_cases ends : first = separator
      · exact ⟨[] :: front, last, by rw [if_pos ends]; rfl, by rw [if_pos ends]; rfl⟩
      · rw [if_neg ends, if_neg ends]
        cases front with
        | nil => exact ⟨[], first :: last, rfl, rfl⟩
        | cons piece others => exact ⟨(first :: piece) :: others, last, rfl, rfl⟩

theorem intercalate_cut (separator : Char) (text : List Char) :
    [separator].intercalate (cut separator text) = text := by
  induction text with
  | nil => rfl
  | cons character rest inductionHypothesis =>
      rw [cut]
      cases pieces : cut separator rest with
      | nil => exact absurd pieces (cut_ne_nil separator rest)
      | cons piece others =>
          rw [pieces] at inductionHypothesis
          split
          next same =>
            rw [List.intercalate_cons_cons, inductionHypothesis, same]
            rfl
          next =>
            cases others with
            | nil =>
                rw [List.intercalate_singleton] at inductionHypothesis ⊢
                rw [inductionHypothesis]
            | cons next more =>
                rw [List.intercalate_cons_cons] at inductionHypothesis ⊢
                rw [List.cons_append, List.cons_append, inductionHypothesis]

theorem infix_of_firstToken? {text token : List Char} (found : firstToken? text = some token) :
    token <:+: text := by
  unfold firstToken? at found
  split at found
  · cases found
  · cases found
    exact (List.takeWhile_prefix _).isInfix.trans (List.dropWhile_suffix _).isInfix

theorem not_isBlank_of_mem_firstToken? {text token : List Char}
    (found : firstToken? text = some token) :
    ∀ character ∈ token, isBlank character = false := by
  unfold firstToken? at found
  split at found
  · cases found
  · cases found
    intro character member
    simpa using List.mem_takeWhile_imp member

/-- The text before the last separator: what follows that separator holds no other one. -/
theorem beforeLast?_eq_some_iff {separator : Char} {text before : List Char} :
    beforeLast? separator text = some before ↔
      ∃ after, text = before ++ separator :: after ∧ separator ∉ after := by
  unfold beforeLast?
  constructor
  · intro found
    have whole := List.takeWhile_append_dropWhile
      (p := fun character => decide (character ≠ separator)) (l := text.reverse)
    have stops := stopsBefore_dropWhile (fun character => decide (character ≠ separator))
      text.reverse
    cases remaining : text.reverse.dropWhile (fun character => decide (character ≠ separator)) with
    | nil =>
        rw [remaining] at found
        cases found
    | cons stop back =>
        rw [remaining] at found whole stops
        cases found
        have stopIs : stop = separator := by simpa using stops stop rfl
        refine ⟨(text.reverse.takeWhile fun character => character ≠ separator).reverse, ?_, ?_⟩
        · have turned := congrArg List.reverse whole
          rw [List.reverse_append, List.reverse_cons, List.reverse_reverse, stopIs] at turned
          simpa using turned.symm
        · intro member
          simpa using List.mem_takeWhile_imp (List.mem_reverse.1 member)
  · rintro ⟨after, rfl, absent⟩
    have inside := differs_of_not_mem (mt List.mem_reverse.1 absent)
    rw [List.reverse_append, List.reverse_cons, List.append_assoc, List.singleton_append,
      dropWhile_run inside (by simp [StopsBefore])]
    simp

theorem mem_or_eq_of_mem_intercalate {α : Type} {separator element : α} {parts : List (List α)}
    (member : element ∈ [separator].intercalate parts) :
    element = separator ∨ ∃ part ∈ parts, element ∈ part := by
  induction parts with
  | nil => exact absurd member List.not_mem_nil
  | cons part later inductionHypothesis =>
      cases later with
      | nil =>
          rw [List.intercalate_singleton] at member
          exact .inr ⟨part, List.mem_cons_self, member⟩
      | cons next others =>
          rw [List.intercalate_cons_cons, List.append_assoc, List.mem_append, List.singleton_append,
            List.mem_cons] at member
          rcases member with here | rfl | there
          · exact .inr ⟨part, List.mem_cons_self, here⟩
          · exact .inl rfl
          · rcases inductionHypothesis there with same | ⟨other, otherMember, inOther⟩
            · exact .inl same
            · exact .inr ⟨other, List.mem_cons_of_mem part otherMember, inOther⟩

/-! ## Trimming -/

theorem trimLeft_eq_nil {text : List Char} (blank : ∀ character ∈ text, isBlank character = true) :
    trimLeft text = [] :=
  List.dropWhile_eq_nil_iff.2 blank

/-- A text that is not all white space ends the white space it starts with by itself. -/
theorem trimLeft_append {text : List Char} (solid : ¬ ∀ character ∈ text, isBlank character = true)
    (rest : List Char) : trimLeft (text ++ rest) = trimLeft text ++ rest := by
  have something : trimLeft text ≠ [] := by
    rwa [trimLeft, ne_eq, List.dropWhile_eq_nil_iff]
  rw [trimLeft, List.dropWhile_append, if_neg (by simpa [trimLeft] using something)]
  rfl

theorem takeWhile_isBlank_append {text : List Char}
    (solid : ¬ ∀ character ∈ text, isBlank character = true) (rest : List Char) :
    (text ++ rest).takeWhile isBlank = text.takeWhile isBlank := by
  have something : text.dropWhile isBlank ≠ [] := by
    rwa [ne_eq, List.dropWhile_eq_nil_iff]
  have parts := List.takeWhile_append_dropWhile (p := isBlank) (l := text)
  rw [List.takeWhile_append, if_neg]
  intro whole
  have lengths := congrArg List.length parts
  rw [List.length_append, whole] at lengths
  exact something (List.length_eq_zero_iff.1 (by omega))

/-- White space at the end of a text belongs to none of its tokens. -/
theorem firstToken?_concat_blank {space : Char} (blank : isBlank space = true)
    (text : List Char) : firstToken? (text ++ [space]) = firstToken? text := by
  by_cases solid : ∀ character ∈ text, isBlank character = true
  · have nothing : trimLeft text = [] := trimLeft_eq_nil solid
    have nothingThere : trimLeft (text ++ [space]) = [] := by
      refine trimLeft_eq_nil fun character member => ?_
      rcases List.mem_append.1 member with inside | last
      · exact solid character inside
      · rwa [List.mem_singleton.1 last]
    rw [firstToken?, firstToken?, nothing, nothingThere]
  · have outside : (!isBlank space) = false := by rw [blank, Bool.not_true]
    rw [firstToken?, firstToken?, trimLeft_append solid, takeWhile_append_stop outside]

/-- White space, of which there is some. -/
structure IsGap (text : List Char) : Prop where
  nonempty : text ≠ []
  blank : ∀ character ∈ text, isBlank character = true

/-- White space at the start of a text goes on up to the text without it. -/
theorem exists_gap {space : Char} (blank : isBlank space = true) (text : List Char) :
    ∃ gap, space :: text = gap ++ trimLeft text ∧ IsGap gap := by
  refine ⟨space :: text.takeWhile isBlank, ?_, ⟨List.cons_ne_nil _ _, ?_⟩⟩
  · rw [List.cons_append, trimLeft, List.takeWhile_append_dropWhile]
  · exact List.forall_mem_cons.2 ⟨blank, fun _ member => List.mem_takeWhile_imp member⟩

theorem trimRight_isPrefix (text : List Char) : trimRight text <+: text := by
  have suffix := List.dropWhile_suffix isBlank (l := text.reverse)
  rw [← List.reverse_prefix, List.reverse_reverse] at suffix
  exact suffix

theorem trimRight_append (text rest : List Char) : trimRight text <+: trimRight (text ++ rest) := by
  rw [trimRight, trimRight, List.reverse_append, List.dropWhile_append]
  split
  · exact List.prefix_refl _
  · rw [List.reverse_append, List.reverse_reverse]
    exact (trimRight_isPrefix text).trans (List.prefix_append _ _)

/-- What is added to the end of a text leaves what trimming kept of it. -/
theorem trim_append (text rest : List Char) : trim text <+: trim (text ++ rest) := by
  by_cases blank : ∀ character ∈ text, isBlank character = true
  · rw [trim, trimLeft_eq_nil blank]
    exact List.nil_prefix
  · rw [trim, trim, trimLeft_append blank]
    exact trimRight_append _ _

theorem trimLeft_blank_append {before : List Char}
    (blank : ∀ character ∈ before, isBlank character = true) (text : List Char) :
    trimLeft (before ++ text) = trimLeft text :=
  List.dropWhile_append_of_pos blank

theorem trimRight_append_blank {after : List Char}
    (blank : ∀ character ∈ after, isBlank character = true) (text : List Char) :
    trimRight (text ++ after) = trimRight text := by
  have turned : ∀ character ∈ after.reverse, isBlank character = true :=
    fun character member => blank character (List.mem_reverse.1 member)
  rw [trimRight, List.reverse_append, List.dropWhile_append_of_pos turned, trimRight]

/-- White space around a text does not count. -/
theorem trim_between_blanks {before after : List Char}
    (blankBefore : ∀ character ∈ before, isBlank character = true)
    (blankAfter : ∀ character ∈ after, isBlank character = true) (text : List Char) :
    trim (before ++ text ++ after) = trim text := by
  rw [trim, List.append_assoc, trimLeft_blank_append blankBefore]
  by_cases blank : ∀ character ∈ text, isBlank character = true
  · have allBlank : ∀ character ∈ text ++ after, isBlank character = true :=
      List.forall_mem_append.2 ⟨blank, blankAfter⟩
    rw [trimLeft_eq_nil allBlank, trim, trimLeft_eq_nil blank]
  · rw [trimLeft_append blank, trimRight_append_blank blankAfter, trim]

/-- A text that is not empty and neither starts nor ends with white space. -/
structure Bare (text : List Char) : Prop where
  nonempty : text ≠ []
  start : ∀ character ∈ text.head?, isBlank character = false
  finish : ∀ character ∈ text.getLast?, isBlank character = false

theorem bare_trim {text : List Char} (nonempty : trim text ≠ []) : Bare (trim text) := by
  refine ⟨nonempty, ?_, ?_⟩
  · intro character first
    apply stopsBefore_dropWhile isBlank text character
    obtain ⟨rest, whole⟩ := trimRight_isPrefix (trimLeft text)
    rw [← trimLeft, ← whole, List.head?_append]
    rw [Option.mem_def, trim] at first
    rw [first]
    rfl
  · intro character last
    rw [trim, trimRight, List.getLast?_reverse] at last
    exact stopsBefore_dropWhile isBlank (trimLeft text).reverse character last

/-- There is nothing to trim off a text that neither starts nor ends with white space. -/
theorem trim_eq_self {text : List Char} (start : StopsBefore isBlank text)
    (finish : ∀ character ∈ text.getLast?, isBlank character = false) : trim text = text := by
  have left : trimLeft text = text := dropWhile_of_stopsBefore start
  have right : text.reverse.dropWhile isBlank = text.reverse :=
    dropWhile_of_stopsBefore (by simpa [StopsBefore] using finish)
  rw [trim, left, trimRight, right, List.reverse_reverse]

theorem Bare.trim {text : List Char} (bare : Bare text) : Text.trim text = text :=
  trim_eq_self bare.start bare.finish

theorem trimmed_trimmed (text : String) : trimmed (trimmed text) = trimmed text := by
  rw [trimmed, trimmed, String.toList_ofList]
  by_cases blank : trim text.toList = []
  · rw [blank]
    rfl
  · rw [(bare_trim blank).trim]

/-! ## Classes -/

/-- No interval of word characters meets one of white space. -/
theorem wordRanges_disjoint : ∀ word ∈ wordRanges, ∀ blank ∈ blankRanges,
    word.2 < blank.1 ∨ blank.2 < word.1 := by
  decide +kernel

/-- A property of all characters of ASCII can be checked code by code. -/
theorem forall_ascii {motive : Char → Prop} (each : ∀ code < 0x80, motive (Char.ofNat code))
    {character : Char} (ascii : character.toNat < 0x80) : motive character :=
  Char.ofNat_toNat character ▸ each character.toNat ascii

theorem not_isBlank_of_isWord {character : Char} (word : isWord character = true) :
    isBlank character = false := by
  rw [Bool.eq_false_iff]
  intro blank
  by_cases ascii : character.toNat < 0x80
  · have noBlank := forall_ascii
      (motive := fun character => isWord character = true → isBlank character = false)
      (by decide) ascii word
    rw [blank] at noBlank
    cases noBlank
  · rw [isWord, if_neg ascii] at word
    obtain ⟨wordRange, wordMember, wordLow, wordHigh⟩ := (inRanges_iff _ _).1 word
    obtain ⟨blankRange, blankMember, blankLow, blankHigh⟩ := (inRanges_iff _ _).1 blank
    rcases wordRanges_disjoint wordRange wordMember blankRange blankMember with below | above
    · omega
    · omega

theorem toNat_of_isDigit {character : Char} (digit : character.isDigit = true) :
    48 ≤ character.toNat ∧ character.toNat ≤ 57 := by
  simp only [Char.isDigit, Bool.and_eq_true, decide_eq_true_eq] at digit
  exact ⟨digit.1, digit.2⟩

theorem not_isBlank_of_isDigit {character : Char} (digit : character.isDigit = true) :
    isBlank character = false := by
  have atMost := (toNat_of_isDigit digit).2
  exact forall_ascii
    (motive := fun character => character.isDigit = true → isBlank character = false)
    (by decide) (by omega) digit

/-- The marks that end a name in a list or start a comment are no word characters. -/
theorem not_isWord_of_mark {character : Char} (mark : character ∈ ['.', ',', '#']) :
    isWord character = false := by
  simp only [List.mem_cons, List.not_mem_nil, or_false] at mark
  rcases mark with rfl | rfl | rfl <;> decide

end LibraryScout.Text
