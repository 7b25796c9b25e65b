import LibraryScout.Proofs.Charset.Utf8
import LibraryScout.Proofs.Text.Pieces
import LibraryScout.Url.Basic
import LibraryScout.Url.Percent

/-!
Contract: what was encoded for a URL is decoded to what it was.

Owns:
- that decoding gives back the bytes that percent signs stand for;
- `Form.fields`, the fields that a query stands for: pieces between `&`, cut at their first `=`, in
  which `+` is a blank;
- that a query has one more field after one was added to it, and the one that was added.

An encoded field keeps none of the characters that separate the parts of a URL, so it is one piece,
whatever the text was.

Does not own: which parts of a URL are encoded.
-/

namespace LibraryScout.Url

namespace Percent

/-! ## Bytes -/

theorem hexValue?_hexDigit : ∀ value < 16, hexValue? (hexDigit value) = some value := by
  decide

theorem decode_encodeByte (byte : UInt8) (rest : List Char) :
    decode (encodeByte byte ++ rest) = byte :: decode rest := by
  have small : byte.toNat < 256 := byte.toNat_lt
  have high := hexValue?_hexDigit (byte.toNat / 16) (by omega)
  have low := hexValue?_hexDigit (byte.toNat % 16) (by omega)
  have whole : byte.toNat / 16 * 16 + byte.toNat % 16 = byte.toNat := Nat.div_add_mod' _ _
  simp only [encodeByte, List.cons_append, List.nil_append, decode, high, low, whole]
  rw [Nat.toUInt8_eq, UInt8.ofNat_toNat]

theorem decode_flatMap_encodeByte (bytes : List UInt8) (rest : List Char) :
    decode (bytes.flatMap encodeByte ++ rest) = bytes ++ decode rest := by
  induction bytes with
  | nil => rfl
  | cons byte later inductionHypothesis =>
      rw [List.flatMap_cons, List.append_assoc, decode_encodeByte, inductionHypothesis]
      rfl

theorem decode_cons {character : Char} (noSign : character ≠ '%') (rest : List Char) :
    decode (character :: rest) = String.utf8EncodeChar character ++ decode rest := by
  rw [decode]
  exact fun _ _ _ same _ => noSign same

/-- Without percent signs, decoding gives the bytes of a text. -/
theorem decode_of_not_mem {text : List Char} (noSign : '%' ∉ text) :
    decode text = text.flatMap String.utf8EncodeChar := by
  induction text with
  | nil => rw [decode, List.flatMap_nil]
  | cons character rest inductionHypothesis =>
      rw [List.mem_cons, not_or] at noSign
      rw [decode_cons (Ne.symm noSign.1), inductionHypothesis noSign.2, List.flatMap_cons]

theorem mem_encodeByte {byte : UInt8} {mark : Char} (member : mark ∈ encodeByte byte) :
    mark = '%' ∨ mark.isAlphanum = true := by
  have small : byte.toNat < 256 := byte.toNat_lt
  have digits : ∀ value < 16, (hexDigit value).isAlphanum = true := by decide
  simp only [encodeByte, List.mem_cons, List.not_mem_nil, or_false] at member
  rcases member with sign | rfl | rfl
  · exact .inl sign
  · exact .inr (digits _ (by omega))
  · exact .inr (digits _ (by omega))

/-! ## Form fields -/

/-- A character as a form field holds it. -/
def formCharacter (character : Char) : List Char :=
  if character.isAlphanum || "*-._".toList.contains character then [character]
  else if character = ' ' then ['+']
  else (String.utf8EncodeChar character).flatMap encodeByte

theorem toList_encodeFormField (text : String) :
    (encodeFormField text).toList = text.toList.flatMap formCharacter :=
  String.toList_ofList

/-- The characters that an encoded field is made of. -/
def isFormCharacter (character : Char) : Bool :=
  character.isAlphanum || "*-._+%".toList.contains character

theorem isFormCharacter_of_mem_formCharacter {character mark : Char}
    (member : mark ∈ formCharacter character) : isFormCharacter mark = true := by
  unfold formCharacter at member
  split at member
  next itself =>
    obtain rfl := List.mem_singleton.1 member
    rcases Bool.or_eq_true_iff.1 itself with alphanumeric | kept
    · exact Bool.or_eq_true_iff.2 (.inl alphanumeric)
    · have all : "*-._".toList.all isFormCharacter = true := by decide
      exact List.all_eq_true.1 all mark (List.contains_iff_mem.1 kept)
  next =>
    split at member
    next =>
      obtain rfl := List.mem_singleton.1 member
      decide
    next =>
      obtain ⟨byte, _, inByte⟩ := List.mem_flatMap.1 member
      rcases mem_encodeByte inByte with rfl | alphanumeric
      · decide
      · exact Bool.or_eq_true_iff.2 (.inl alphanumeric)

theorem isFormCharacter_of_mem {text : String} {mark : Char}
    (member : mark ∈ (encodeFormField text).toList) : isFormCharacter mark = true := by
  rw [toList_encodeFormField] at member
  obtain ⟨character, _, inside⟩ := List.mem_flatMap.1 member
  exact isFormCharacter_of_mem_formCharacter inside

end Percent

namespace Form

open Percent

/-- Plus signs are blanks. -/
def withBlanks (written : List Char) : List Char :=
  written.map fun character => if character = '+' then ' ' else character

/-- The text that the name or the value of a field stands for. -/
def decoded (written : List Char) : String :=
  String.ofList (Charset.decodeUtf8 (Percent.decode (withBlanks written)))

/-- The name of a field, and its value after the first sign between them. -/
def readField (piece : List Char) : String × String :=
  (decoded (Text.upTo '=' piece),
    decoded ((piece.dropWhile fun character => character ≠ '=').drop 1))

/-- The fields of a query; empty pieces are none. -/
def fields (query : String) : List (String × String) :=
  ((Text.cut '&' query.toList).filter fun piece => piece ≠ []).map readField

/-! ## One field -/

theorem withBlanks_append (first second : List Char) :
    withBlanks (first ++ second) = withBlanks first ++ withBlanks second :=
  List.map_append

theorem withBlanks_of_not_mem {written : List Char} (noPlus : '+' ∉ written) :
    withBlanks written = written := by
  refine (List.map_congr_left fun character member => ?_).trans (List.map_id _)
  refine if_neg ?_
  rintro rfl
  exact noPlus member

/-- A character of a form field is decoded to its bytes, whatever follows. -/
theorem decode_formCharacter (character : Char) (rest : List Char) :
    decode (withBlanks (formCharacter character) ++ rest) =
      String.utf8EncodeChar character ++ decode rest := by
  unfold formCharacter
  split
  next itself =>
    have apart : character ≠ '+' ∧ character ≠ '%' := by
      refine ⟨?_, ?_⟩ <;> (rintro rfl; exact absurd itself (by decide))
    rw [withBlanks_of_not_mem (by simpa using apart.1.symm)]
    exact decode_cons apart.2 rest
  next =>
    split
    next blank =>
      subst blank
      exact decode_cons (by decide) rest
    next =>
      have noPlus : '+' ∉ (String.utf8EncodeChar character).flatMap encodeByte := by
        intro member
        obtain ⟨byte, _, inByte⟩ := List.mem_flatMap.1 member
        exact absurd (mem_encodeByte inByte) (by decide)
      rw [withBlanks_of_not_mem noPlus]
      exact decode_flatMap_encodeByte _ rest

theorem decode_flatMap_formCharacter (text : List Char) :
    decode (withBlanks (text.flatMap formCharacter)) = text.flatMap String.utf8EncodeChar := by
  induction text with
  | nil => simp [withBlanks, decode]
  | cons character later inductionHypothesis =>
      rw [List.flatMap_cons, withBlanks_append, decode_formCharacter, inductionHypothesis,
        List.flatMap_cons]

/-- A text is read from its encoding. -/
theorem decoded_encodeFormField (text : String) :
    decoded (encodeFormField text).toList = text := by
  rw [decoded, toList_encodeFormField, decode_flatMap_formCharacter,
    Charset.Utf8.decodeUtf8_flatMap_utf8EncodeChar, String.ofList_toList]

/-! ## Whole queries -/

theorem not_mem_encodeFormField {mark : Char} (separates : mark ∈ "&=?#".toList)
    (text : String) : mark ∉ (encodeFormField text).toList := by
  have outside : "&=?#".toList.all (fun mark => !isFormCharacter mark) = true := by decide
  have noPart := List.all_eq_true.1 outside mark separates
  intro member
  rw [isFormCharacter_of_mem member] at noPart
  cases noPart

theorem fields_empty : fields "" = [] := rfl

theorem fields_append (first second : String) :
    fields (first ++ "&" ++ second) = fields first ++ fields second := by
  have cut : Text.cut '&' (first ++ "&" ++ second).toList =
      Text.cut '&' first.toList ++ Text.cut '&' second.toList := by
    rw [← Text.cut_append_separator]
    simp
  simp only [fields, cut, List.filter_append, List.map_append]

theorem readField_append {name : List Char} (noSign : '=' ∉ name) (value : List Char) :
    readField (name ++ '=' :: value) = (decoded name, decoded value) := by
  have inside := Text.differs_of_not_mem noSign
  have stops : Text.StopsBefore (fun character => decide (character ≠ '=')) ('=' :: value) := by
    intro character first
    obtain rfl := Option.some.inj first
    rfl
  rw [readField, Text.upTo, Text.takeWhile_run inside stops, Text.dropWhile_run inside stops]
  rfl

/-- A name and a value with the sign between them are one field. -/
theorem fields_written (name value : String) :
    fields (encodeFormField name ++ "=" ++ encodeFormField value) = [(name, value)] := by
  have piece : (encodeFormField name ++ "=" ++ encodeFormField value).toList =
      (encodeFormField name).toList ++ '=' :: (encodeFormField value).toList := by
    simp
  have whole : '&' ∉ (encodeFormField name).toList ++ '=' :: (encodeFormField value).toList := by
    simp [not_mem_encodeFormField]
  have noSign : '=' ∉ (encodeFormField name).toList := not_mem_encodeFormField (by decide) name
  rw [fields, piece, Text.cut_of_not_mem whole, List.filter_cons_of_pos (by simp),
    List.filter_nil, List.map_singleton, readField_append noSign, decoded_encodeFormField,
    decoded_encodeFormField]

end Form

/-- The fields of the query of a URL; without a query there are none. -/
def fields (url : Url) : List (String × String) :=
  Form.fields (url.query?.getD "")

/-- Whatever the query was, a field that is added is the last one. -/
theorem fields_withField (url : Url) (name value : String) :
    (url.withField name value Percent.encodeFormField).fields = url.fields ++ [(name, value)] := by
  have field := Form.fields_written name value
  unfold fields withField
  split
  next nothing => rw [nothing, Option.getD_some, Option.getD_some, field, Form.fields_empty]; rfl
  next query _ asked =>
    rw [asked, Option.getD_some, Option.getD_some, Form.fields_append, field]
  next nothing => rw [nothing, Option.getD_some, Option.getD_none, field, Form.fields_empty]; rfl

/-- What separates the parts of a URL does not come into a query with a field. -/
theorem not_mem_query?_withField {mark : Char} (separates : mark ∈ "?#".toList) {url : Url}
    (absent : ∀ query ∈ url.query?, mark ∉ query.toList) (name value : String) :
    ∀ query ∈ (url.withField name value Percent.encodeFormField).query?, mark ∉ query.toList := by
  have listed : mark ∈ "&=?#".toList := List.mem_append_right ['&', '='] separates
  have noSign : mark ≠ '=' := by
    rintro rfl
    exact absurd separates (by decide)
  have noAnd : mark ≠ '&' := by
    rintro rfl
    exact absurd separates (by decide)
  have inName := Form.not_mem_encodeFormField listed name
  have inValue := Form.not_mem_encodeFormField listed value
  unfold withField
  rintro _ ⟨⟩
  split
  next => simp [inName, inValue, noSign]
  next query _ asked => simp [absent query asked, inName, inValue, noSign, noAnd]
  next => simp [inName, inValue, noSign]

end LibraryScout.Url
