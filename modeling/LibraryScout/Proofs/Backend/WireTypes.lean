import LibraryScout.Proofs.Backend.Records
import LibraryScout.Report
import LibraryScout.Source.Names

/-!
Contract: decoding undoes encoding on every type of data.

Owns:
- the types of data, with the decoder and the data of each;
- that a value that was decoded from a text with whole numbers only is decoded again from its
  compact and from its indented text, and so from the reports that print it as JSON;
- that no suggestion among the values of any text has a detail with the name of the module's member.

Does not own: how single records are read.
-/

namespace LibraryScout.Backend

open LibraryScout.Assembly LibraryScout.Json LibraryScout.Source

/-- The types of data. -/
inductive WireType where
  | search
  | suggestion
  | libraries
  | categories
  | snippets
  | intents
  | modules
  | document
  | language
  | kind
  | warning
  | failure
deriving DecidableEq, Repr

namespace WireType

abbrev Value : WireType → Type
  | search => SearchResponse
  | suggestion => Suggestion
  | libraries => Libraries
  | categories => Categories
  | snippets => Snippets
  | intents => List Json
  | modules => List String
  | document => Document
  | language => Language
  | kind => Kind
  | warning => Warning
  | failure => Error

def decoder : (wireType : WireType) → Decoder wireType.Value
  | search => SearchResponse.decoder
  | suggestion => Suggestion.decoder
  | libraries => Libraries.decoder
  | categories => Categories.decoder
  | snippets => Decoder.map
  | intents => Decoder.list Decoder.any
  | modules => Decoder.list Decoder.text
  | document => Document.decoder
  | language => Language.decoder
  | kind => Kind.decoder
  | warning => Warning.decoder
  | failure => Error.decoder

def toJson : (wireType : WireType) → wireType.Value → Json
  | search, response => response.toJson
  | suggestion, one => one.toJson
  | libraries, known => known.toJson
  | categories, nearest => nearest.toJson
  | snippets, members => .object members
  | intents, known => .array known
  | modules, names => Json.strings names
  | document, one => one.toJson
  | language, one => one.toJson
  | kind, one => one.toJson
  | warning, one => one.toJson
  | failure, one => one.toJson

/-- The suggestions in a value. -/
def suggestions : (wireType : WireType) → wireType.Value → List Suggestion
  | search, response => response.filtered
  | suggestion, one => [one]
  | _, _ => []

/-- The reports that print a value as JSON. -/
def reports (language : Language) : (wireType : WireType) → wireType.Value → List String
  | libraries, known => [Report.libraries .json language known]
  | categories, nearest => [Report.categories .json nearest]
  | intents, known => [Report.intents .json language known]
  | _, _ => []

theorem reports_indented (language : Language) (wireType : WireType) (value : wireType.Value) :
    ∀ report ∈ wireType.reports language value, report = (wireType.toJson value).indented := by
  intro report member
  cases wireType
  case libraries => exact List.mem_singleton.1 member
  case categories => exact List.mem_singleton.1 member
  case intents => exact List.mem_singleton.1 member
  all_goals cases member

/-! ## What decoding comes to -/

/-- How deep the values in a record's lists may be nested. -/
def innerDepth : Nat :=
  depthLimit - 3

/-- What decoding a value of a type comes to, when all numbers of the text are allowed. -/
def Sound (allowed : Number → Prop) : (wireType : WireType) → wireType.Value → Prop
  | search, response => response.Sound allowed innerDepth
  | suggestion, one => one.Sound allowed (innerDepth + 2)
  | libraries, known => known.Sound allowed (innerDepth + 1)
  | categories, nearest => nearest.Sound allowed (innerDepth + 1)
  | snippets, members => Within allowed depthLimit (.object members)
  | intents, known => ∀ intent ∈ known, Within allowed (innerDepth + 2) intent
  | failure, one => one.Sound
  | _, _ => True

theorem choice_yields {α : Type} (allowed : Number → Prop) (names : List (String × α))
    (depth : Nat) : Yields allowed (Decoder.choice names (depth + 1)) fun _ => True := by
  refine variant_yields fun variant member => ?_
  obtain ⟨pair, _, rfl⟩ := List.mem_map.1 member
  trivial

theorem decoder_yields (allowed : Number → Prop) (wireType : WireType) :
    Yields allowed (wireType.decoder depthLimit) (Sound allowed wireType) := by
  cases wireType
  case search => exact SearchResponse.decoder_yields innerDepth
  case suggestion => exact Suggestion.decoder_yields (innerDepth + 2)
  case libraries => exact Libraries.decoder_yields (innerDepth + 1)
  case categories => exact Categories.decoder_yields (innerDepth + 1)
  case snippets => exact map_yields (innerDepth + 2)
  case intents => exact list_yields (value_yields (innerDepth + 2))
  case modules => exact (list_yields (text_yields (innerDepth + 2))).imp fun _ _ => trivial
  case document => exact Document.decoder_yields allowed (innerDepth + 2)
  case language => exact choice_yields allowed _ (innerDepth + 2)
  case kind => exact choice_yields allowed _ (innerDepth + 2)
  case warning => exact choice_yields allowed _ (innerDepth + 2)
  case failure => exact Error.decoder_yields (innerDepth + 1)

theorem sound_of_decode {allowed : Number → Prop} {wireType : WireType} {text : String}
    {value : wireType.Value} (numbers : NumbersAre allowed text.toList)
    (decoded : Json.decode wireType.decoder text = .ok value) : wireType.Sound allowed value := by
  unfold Json.decode Json.whole at decoded
  split at decoded
  · cases decoded
  · rename_i held rest found
    obtain ⟨_, _, rfl⟩ := exists_of_map_eq_ok decoded
    exact (wireType.decoder_yields allowed _ numbers _ _ found).2

theorem decodes_of_sound {wireType : WireType} {value : wireType.Value}
    (sound : wireType.Sound Number.IsWhole value) :
    Decodes wireType.decoder depthLimit (wireType.toJson value) value := by
  cases wireType
  case search => exact SearchResponse.decodes sound
  case suggestion => exact Suggestion.decodes sound
  case libraries => exact Libraries.decodes sound
  case categories => exact Categories.decodes sound
  case snippets => exact decodes_map sound
  case intents => exact decodes_entries sound
  case modules => exact decodes_texts (innerDepth + 2) value
  case document => exact Document.decodes value (innerDepth + 2)
  case language => cases value <;> exact decodes_unit depthLimit rfl
  case kind => cases value <;> exact decodes_unit depthLimit rfl
  case warning =>
    cases value
    exact decodes_unit depthLimit rfl
  case failure => exact Error.decodes sound (innerDepth + 1)

/-! ## Decoding again -/

theorem suggestions_sound {allowed : Number → Prop} {wireType : WireType}
    {value : wireType.Value} (sound : wireType.Sound allowed value) :
    ∀ suggestion ∈ wireType.suggestions value,
      suggestion.details.names.Nodup ∧ "module" ∉ suggestion.details.names := by
  intro suggestion member
  cases wireType
  case search => exact ⟨(sound suggestion member).distinct, (sound suggestion member).noModule⟩
  case suggestion =>
    obtain rfl := List.mem_singleton.1 member
    exact ⟨sound.distinct, sound.noModule⟩
  all_goals cases member

/-- Decoding undoes encoding. A value that was decoded from any text has no suggestion whose details
repeat a name or use the name of the module's member. If all numbers of the text are integers of 64
bits, the value is decoded again from its compact text, from its indented text, and from every
report that prints it as JSON. -/
theorem decode_toJson (wireType : WireType) (text : String) (value : wireType.Value)
    (decoded : Json.decode wireType.decoder text = .ok value) :
    (∀ suggestion ∈ wireType.suggestions value,
      suggestion.details.names.Nodup ∧ "module" ∉ suggestion.details.names) ∧
    (HasWholeNumbers text →
      Json.decode wireType.decoder (wireType.toJson value).compact = .ok value ∧
      Json.decode wireType.decoder (wireType.toJson value).indented = .ok value ∧
      ∀ language, ∀ report ∈ wireType.reports language value,
        Json.decode wireType.decoder report = .ok value) := by
  have anyNumbers : NumbersAre (fun _ => True) text.toList := fun _ _ _ _ => trivial
  refine ⟨suggestions_sound (sound_of_decode anyNumbers decoded), fun whole => ?_⟩
  obtain ⟨compact, indented⟩ := (decodes_of_sound (sound_of_decode whole decoded)).decode
  refine ⟨compact, indented, fun language report member => ?_⟩
  rw [reports_indented language wireType value report member]
  exact indented

/-- A suggestion that repeats the name of a detail, with an escape in another one and digits that
are no number. -/
def repeatingText : String :=
  "\x7b\"score\":1,\"module\":\"0.5\",\"us\\u0065s\":[\x7b\"n\":-0\x7d],\"score\":2\x7d"

/-- What the suggestion says: the first place of the repeated name, and its last value. -/
def repeatingSuggestion : Suggestion :=
  ⟨"0.5", [("score", Json.natural 2),
    ("uses", .array [.object [("n", .number (.float ⟨true, 0, -1074⟩))]])]⟩

theorem decode_toJson_repeating :
    Json.decode suggestion.decoder repeatingText = .ok repeatingSuggestion ∧
    (∀ one ∈ suggestion.suggestions repeatingSuggestion,
      one.details.names.Nodup ∧ "module" ∉ one.details.names) ∧
    HasWholeNumbers repeatingText ∧
    Json.decode suggestion.decoder repeatingSuggestion.toJson.compact = .ok repeatingSuggestion ∧
    Json.decode suggestion.decoder repeatingSuggestion.toJson.indented =
      .ok repeatingSuggestion := by
  have decoded : Json.decode suggestion.decoder repeatingText = .ok repeatingSuggestion := by
    with_unfolding_all rfl
  have whole : HasWholeNumbers repeatingText := by
    decide +kernel
  obtain ⟨distinct, again⟩ := decode_toJson suggestion repeatingText repeatingSuggestion decoded
  obtain ⟨compact, indented, _⟩ := again whole
  exact ⟨decoded, distinct, whole, compact, indented⟩

end WireType

end LibraryScout.Backend
