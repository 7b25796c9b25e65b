import LibraryScout.Assembly.Document
import LibraryScout.Backend.Error
import LibraryScout.Backend.Wire
import LibraryScout.Proofs.Json.Decoded
import LibraryScout.Proofs.Json.Decoding

/-!
Contract: the records of the service, as they come out of texts and go back into them.

Owns, for suggestions, answers to searches, catalogues, documents and failures:
- what reading a record comes to;
- that such a record is read back from its data.

Does not own: the layout of texts.
-/

namespace LibraryScout.Json

theorem decodes_entries {depth : Nat} {entries : List Json}
    (whole : ∀ entry ∈ entries, Whole depth entry) :
    Decodes (Decoder.list Decoder.any) (depth + 1) (.array entries) entries := by
  have each : ∀ entry ∈ entries, Decodes Decoder.any depth (id entry) entry :=
    fun entry member => decodes_any (whole entry member)
  have decodes := decodes_list each
  rwa [List.map_id] at decodes

theorem decodes_texts (depth : Nat) (texts : List String) :
    Decodes (Decoder.list Decoder.text) (depth + 1) (strings texts) texts :=
  decodes_list fun text _ => decodes_text depth text

end LibraryScout.Json

namespace LibraryScout.Backend

open LibraryScout.Json

variable {allowed : Number → Prop}

/-! ## Suggestions -/

namespace Suggestion

/-- What reading a suggestion comes to: details with names of their own, none of which is the name
of the module's member. -/
structure Sound (allowed : Number → Prop) (depth : Nat) (suggestion : Suggestion) : Prop where
  within : ∀ detail ∈ suggestion.details, Within allowed depth detail.2
  distinct : suggestion.details.names.Nodup
  noModule : "module" ∉ suggestion.details.names

def named (name : String) (suggestion : Suggestion) : Suggestion :=
  { suggestion with moduleName := name }

def withDetail (name : String) (value : Json) (suggestion : Suggestion) : Suggestion :=
  { suggestion with details := suggestion.details.insert name value }

theorem otherMember_eq (name : String) (depth : Nat) :
    shape.otherMember name depth = fun input =>
      (Decoder.any depth input).map fun (value, rest) => (withDetail name value, rest) := rfl

theorem otherMember_keeps {name : String} (notModule : name ≠ "module") (depth : Nat) :
    Shape.Keeps allowed (shape.otherMember name depth) (Sound allowed depth) := by
  rw [otherMember_eq]
  refine (value_yields depth).map (withDetail name) fun value within suggestion sound => ?_
  refine ⟨fun detail member => ?_, Members.nodup_insert sound.distinct name value, fun isName => ?_⟩
  · rcases Members.mem_insert member with rfl | old
    · exact within
    · exact sound.within detail old
  · rcases Members.mem_names_insert isName with same | old
    · exact notModule same.symm
    · exact sound.noModule old

theorem decoder_yields (depth : Nat) :
    Yields allowed (decoder (depth + 1)) (Sound allowed depth) := by
  refine Shape.decoder_yields (fun field member => ?_) (fun name unknown => ?_)
    ⟨by simp, List.nodup_nil, List.not_mem_nil⟩
  · obtain rfl := List.mem_singleton.1 member
    exact (text_yields depth).map named fun _ _ _ sound =>
      ⟨sound.within, sound.distinct, sound.noModule⟩
  · refine otherMember_keeps (fun same => unknown ?_) depth
    exact same ▸ List.mem_singleton.2 rfl

/-- The member that holds the name of the module. -/
def moduleEntry (name : String) : Shape.Entry Suggestion :=
  ⟨"module", .string name, named name⟩

def detailEntry (detail : String × Json) : Shape.Entry Suggestion :=
  ⟨detail.1, detail.2, withDetail detail.1 detail.2⟩

def entries (suggestion : Suggestion) : List (Shape.Entry Suggestion) :=
  moduleEntry suggestion.moduleName :: suggestion.details.map detailEntry

theorem toJson_eq (suggestion : Suggestion) :
    suggestion.toJson = .object (suggestion.entries.map Shape.Entry.member) := by
  have details : suggestion.details.map (Shape.Entry.member ∘ detailEntry) = suggestion.details :=
    List.map_id _
  rw [entries, List.map_cons, List.map_map, details]
  rfl

theorem entries_names (suggestion : Suggestion) :
    suggestion.entries.map Shape.Entry.name = "module" :: suggestion.details.names := by
  rw [entries, List.map_cons, List.map_map]
  rfl

theorem assembled_details (suggestion : Suggestion) (details : Members) :
    Shape.assembled suggestion (details.map detailEntry) =
      { suggestion with
        details := details.foldl (fun members detail => members.insert detail.1 detail.2)
          suggestion.details } := by
  induction details generalizing suggestion with
  | nil => rfl
  | cons detail others inductionHypothesis =>
      exact inductionHypothesis (detailEntry detail |>.change suggestion)

/-- Details with distinct names are put together as they were. -/
theorem assembled_entries {depth : Nat} {suggestion : Suggestion}
    (sound : suggestion.Sound allowed depth) :
    Shape.assembled ⟨"", []⟩ suggestion.entries = suggestion := by
  have details := Members.ofPairs_of_nodup sound.distinct
  have same := assembled_details ⟨suggestion.moduleName, []⟩ suggestion.details
  exact same.trans (congrArg (Suggestion.mk suggestion.moduleName) details)

theorem readerFor_detail {name : String} (notModule : name ≠ "module") :
    shape.readerFor name = shape.otherMember name := by
  have unknown : shape.fields.find? (fun field => field.name == name) = none := by
    rw [List.find?_eq_none]
    intro field member
    obtain rfl := List.mem_singleton.1 member
    simpa using notModule.symm
  rw [Shape.readerFor, unknown]

theorem readable {depth : Nat} {suggestion : Suggestion}
    (sound : suggestion.Sound Number.IsWhole depth) :
    shape.Readable depth suggestion.entries := by
  refine ⟨fun entry member => ?_, ?_, fun field member _ => ?_⟩
  · rcases List.mem_cons.1 member with rfl | isDetail
    · exact (decodes_text depth suggestion.moduleName).map named
    · obtain ⟨detail, inDetails, rfl⟩ := List.mem_map.1 isDetail
      have notModule : detail.1 ≠ "module" := fun same =>
        sound.noModule (same ▸ List.mem_map_of_mem inDetails)
      rw [detailEntry, readerFor_detail notModule]
      exact (decodes_any (sound.within detail inDetails)).map (withDetail detail.1)
  · rw [entries_names]
    exact List.nodup_cons.2 ⟨sound.noModule, sound.distinct⟩
  · obtain rfl := List.mem_singleton.1 member
    rw [entries_names]
    exact List.mem_cons_self

theorem decodes {depth : Nat} {suggestion : Suggestion}
    (sound : suggestion.Sound Number.IsWhole depth) :
    Decodes decoder (depth + 1) suggestion.toJson suggestion := by
  have assembled := Shape.decodes_record suggestion.entries (readable sound) ⟨"", []⟩
  rw [assembled_entries sound, ← toJson_eq] at assembled
  exact assembled

end Suggestion

/-! ## Answers to searches -/

namespace SearchResponse

/-- What reading an answer comes to. -/
def Sound (allowed : Number → Prop) (depth : Nat) (response : SearchResponse) : Prop :=
  ∀ suggestion ∈ response.filtered, suggestion.Sound allowed depth

def suggesting (suggestions : List Suggestion) (response : SearchResponse) : SearchResponse :=
  { response with filtered := suggestions }

def matching (identifiers : List String) (response : SearchResponse) : SearchResponse :=
  { response with raw := identifiers }

theorem decoder_yields (depth : Nat) :
    Yields allowed (decoder (depth + 3)) (Sound allowed depth) := by
  refine Shape.decoder_yields (fun field member => ?_)
    (fun name _ => Shape.otherMember_keeps rfl name) (by simp [Sound])
  rcases List.mem_cons.1 member with rfl | last
  · exact (list_yields (Suggestion.decoder_yields depth)).map suggesting
      fun suggestions sound _ _ => sound
  · obtain rfl := List.mem_singleton.1 last
    exact (list_yields (text_yields (depth + 1))).map matching fun _ _ _ sound => sound

theorem decodes {depth : Nat} {response : SearchResponse}
    (sound : response.Sound Number.IsWhole depth) :
    Decodes decoder (depth + 3) response.toJson response := by
  refine Shape.decodes_record
    [⟨"filtered", .array (response.filtered.map Suggestion.toJson), suggesting response.filtered⟩,
      ⟨"raw", Json.strings response.raw, matching response.raw⟩]
    ⟨fun entry member => ?_, by simp, by simp⟩ ⟨[], []⟩
  rcases List.mem_cons.1 member with rfl | last
  · have each : ∀ suggestion ∈ response.filtered,
        Decodes Suggestion.decoder (depth + 1) suggestion.toJson suggestion :=
      fun suggestion isMember => Suggestion.decodes (sound suggestion isMember)
    exact (decodes_list each).map suggesting
  · obtain rfl := List.mem_singleton.1 last
    exact (decodes_texts (depth + 1) response.raw).map matching

end SearchResponse

/-! ## Catalogues -/

namespace Libraries

/-- What reading libraries comes to. -/
structure Sound (allowed : Number → Prop) (depth : Nat) (libraries : Libraries) : Prop where
  within : ∀ entry ∈ libraries.entries, Within allowed depth entry
  inRange : libraries.total ≤ largestWhole

def listing (entries : List Json) (libraries : Libraries) : Libraries :=
  { libraries with entries := entries }

def counting (total : Nat) (libraries : Libraries) : Libraries :=
  { libraries with total := total }

theorem decoder_yields (depth : Nat) :
    Yields allowed (decoder (depth + 2)) (Sound allowed depth) := by
  refine Shape.decoder_yields (fun field member => ?_)
    (fun name _ => Shape.otherMember_keeps rfl name) ⟨by simp, Nat.zero_le _⟩
  rcases List.mem_cons.1 member with rfl | last
  · exact (list_yields (value_yields depth)).map listing fun entries within _ sound =>
      ⟨within, sound.inRange⟩
  · obtain rfl := List.mem_singleton.1 last
    exact (bounded_yields (depth + 1) largestWhole "u64").map counting fun total inRange _ sound =>
      ⟨sound.within, inRange⟩

theorem decodes {depth : Nat} {libraries : Libraries}
    (sound : libraries.Sound Number.IsWhole depth) :
    Decodes decoder (depth + 2) libraries.toJson libraries := by
  refine Shape.decodes_record
    [⟨"libs", .array libraries.entries, listing libraries.entries⟩,
      ⟨"total", Json.natural libraries.total, counting libraries.total⟩]
    ⟨fun entry member => ?_, by simp, by simp⟩ ⟨[], 0⟩
  rcases List.mem_cons.1 member with rfl | last
  · exact (decodes_entries sound.within).map listing
  · obtain rfl := List.mem_singleton.1 last
    exact (decodes_bounded (depth + 1) "u64" sound.inRange (Nat.le_refl _)).map counting

end Libraries

namespace Categories

/-- What reading the nearest categories comes to. -/
structure Sound (allowed : Number → Prop) (depth : Nat) (nearest : Categories) : Prop where
  categories : ∀ entry ∈ nearest.categories, Within allowed depth entry
  libraries : ∀ entry ∈ nearest.libraries, Within allowed depth entry

def grouped (categories : List Json) (nearest : Categories) : Categories :=
  { nearest with categories := categories }

def neighbouring (libraries : List Json) (nearest : Categories) : Categories :=
  { nearest with libraries := libraries }

theorem decoder_yields (depth : Nat) :
    Yields allowed (decoder (depth + 2)) (Sound allowed depth) := by
  have yields : Yields allowed (Decoder.list Decoder.any (depth + 1)) fun entries =>
      ∀ entry ∈ entries, Within allowed depth entry := list_yields (value_yields depth)
  refine Shape.decoder_yields (fun field member => ?_)
    (fun name _ => Shape.otherMember_keeps rfl name) ⟨by simp, by simp⟩
  rcases List.mem_cons.1 member with rfl | last
  · exact yields.map grouped fun categories within _ sound => ⟨within, sound.libraries⟩
  · obtain rfl := List.mem_singleton.1 last
    exact yields.map neighbouring fun libraries within _ sound => ⟨sound.categories, within⟩

theorem decodes {depth : Nat} {nearest : Categories}
    (sound : nearest.Sound Number.IsWhole depth) :
    Decodes decoder (depth + 2) nearest.toJson nearest := by
  refine Shape.decodes_record
    [⟨"cats", .array nearest.categories, grouped nearest.categories⟩,
      ⟨"nearestLibs", .array nearest.libraries, neighbouring nearest.libraries⟩]
    ⟨fun entry member => ?_, by simp, by simp⟩ ⟨[], []⟩
  rcases List.mem_cons.1 member with rfl | last
  · exact (decodes_entries sound.categories).map grouped
  · obtain rfl := List.mem_singleton.1 last
    exact (decodes_entries sound.libraries).map neighbouring

end Categories

/-! ## Failures -/

namespace Error

/-- What reading a failure comes to: a status and a number of seconds within their ranges. -/
def Sound : Error → Prop
  | api _ status? => ∀ status ∈ status?, status ≤ 65535
  | timeout seconds => seconds ≤ largestWhole
  | _ => True

def saying (text : String) : Error → Error
  | api _ status? => api text status?
  | invalidResponse _ raw? => invalidResponse text raw?
  | configuration _ => configuration text
  | network _ => network text
  | timeout seconds => timeout seconds

def withStatus (status? : Option Nat) : Error → Error
  | api text _ => api text status?
  | other => other

def withRaw (raw? : Option String) : Error → Error
  | invalidResponse text _ => invalidResponse text raw?
  | other => other

theorem message_keeps (depth : Nat) : Shape.Keeps allowed (messageField.read depth) Sound := by
  refine (text_yields depth).map saying fun text _ error sound => ?_
  cases error <;> exact sound

theorem status_keeps (depth : Nat) : Shape.Keeps allowed (statusField.read depth) Sound := by
  refine (optional_yields (bounded_yields depth 65535 "u16")).map withStatus ?_
  intro status? inRange error sound
  cases error
  case api text _ => exact inRange
  all_goals exact sound

theorem seconds_keeps (depth : Nat) : Shape.Keeps allowed (secondsField.read depth) Sound := by
  exact (bounded_yields depth largestWhole "u64").map (fun seconds _ => timeout seconds)
    fun seconds inRange _ _ => inRange

theorem raw_keeps (depth : Nat) : Shape.Keeps allowed (rawField.read depth) Sound := by
  refine (optional_yields (text_yields depth)).map withRaw fun raw? _ error sound => ?_
  cases error <;> exact sound

theorem details_yield (depth : Nat) {variant : String} {fields : List (Json.Field Error)}
    (keeps : ∀ field ∈ fields, Shape.Keeps allowed (field.read depth) Sound) {start : Error}
    (starts : start.Sound) :
    (details variant fields start).2.Yields allowed (depth + 1) Sound :=
  Shape.decoder_yields keeps (fun name _ => Shape.otherMember_keeps rfl name) starts

theorem decoder_yields (depth : Nat) : Yields allowed (decoder (depth + 2)) Sound := by
  refine variant_yields fun variant member => ?_
  have message : Shape.Keeps allowed (messageField.read depth) Sound := message_keeps depth
  simp only [List.mem_cons, List.not_mem_nil, or_false] at member
  rcases member with rfl | rfl | rfl | rfl | rfl
  · refine details_yield depth (fun field isField => ?_) (by simp [Sound])
    rcases List.mem_cons.1 isField with rfl | last
    · exact message
    · exact List.mem_singleton.1 last ▸ status_keeps depth
  · refine details_yield depth (fun field isField => ?_) (Nat.zero_le _)
    exact List.mem_singleton.1 isField ▸ seconds_keeps depth
  · refine details_yield depth (fun field isField => ?_) trivial
    rcases List.mem_cons.1 isField with rfl | last
    · exact message
    · exact List.mem_singleton.1 last ▸ raw_keeps depth
  · refine details_yield depth (fun field isField => ?_) trivial
    exact List.mem_singleton.1 isField ▸ message
  · refine details_yield depth (fun field isField => ?_) trivial
    exact List.mem_singleton.1 isField ▸ message

/-- A value or null is read back when the value is and does not look like null. -/
theorem decodes_orNull {α : Type} {inner : Decoder α} {depth : Nat} {encode : α → Json}
    {value? : Option α} (each : ∀ value ∈ value?, Decodes inner depth (encode value) value)
    (notNull : ∀ value ∈ value?, ∀ layout level,
      (Layout.chars layout level (encode value)).head? ≠ some 'n') :
    Decodes (Decoder.optional inner) depth (orNull encode value?) value? := by
  cases value? with
  | none => exact decodes_none inner depth
  | some value => exact decodes_some (each value rfl) (notNull value rfl)

theorem head?_natural (layout : Layout) (level : Nat) {value : Nat}
    (inRange : value ≤ largestWhole) :
    (layout.chars level (Json.natural value)).head? ≠ some 'n' := by
  have whole := isWhole_natural inRange
  obtain ⟨first, others, written, starts⟩ := exists_startsNumber whole
  have notN : first ≠ 'n' := starts.ne (by decide)
  rw [Json.natural, Layout.chars, written]
  simpa using notN

theorem decodes_status (depth : Nat) {status? : Option Nat}
    (inRange : ∀ status ∈ status?, status ≤ 65535) :
    Decodes (Decoder.optional (Decoder.bounded 65535 "u16")) depth
      (orNull Json.natural status?) status? := by
  have fits : 65535 ≤ largestWhole := by decide
  exact decodes_orNull
    (fun status isStatus => decodes_bounded depth "u16" (inRange status isStatus) fits)
    fun status isStatus layout level =>
      head?_natural layout level (Nat.le_trans (inRange status isStatus) fits)

theorem decodes_raw (depth : Nat) (raw? : Option String) :
    Decodes (Decoder.optional Decoder.text) depth (orNull Json.string raw?) raw? := by
  refine decodes_orNull (fun raw _ => decodes_text depth raw) fun raw _ layout level => ?_
  rw [Layout.chars, literal]
  simp

theorem decodes {error : Error} (sound : error.Sound) (depth : Nat) :
    Decodes decoder (depth + 2) error.toJson error := by
  have message := decodes_text depth
  cases error with
  | api text status? =>
      refine decodes_variant rfl (Shape.decodes_record
        [⟨"message", .string text, saying text⟩,
          ⟨"status_code", orNull Json.natural status?, withStatus status?⟩]
        ⟨fun entry member => ?_, by simp, by simp [messageField, statusField]⟩ (api "" none))
      rcases List.mem_cons.1 member with rfl | last
      · exact (message text).map saying
      · obtain rfl := List.mem_singleton.1 last
        exact (decodes_status depth sound).map withStatus
  | timeout seconds =>
      refine decodes_variant rfl (Shape.decodes_record
        [⟨"seconds", Json.natural seconds, fun _ => timeout seconds⟩]
        ⟨fun entry member => ?_, by simp, by simp [secondsField]⟩ (timeout 0))
      obtain rfl := List.mem_singleton.1 member
      exact (decodes_bounded depth "u64" sound (Nat.le_refl _)).map fun value _ => timeout value
  | invalidResponse text raw? =>
      refine decodes_variant rfl (Shape.decodes_record
        [⟨"message", .string text, saying text⟩,
          ⟨"raw_response", orNull Json.string raw?, withRaw raw?⟩]
        ⟨fun entry member => ?_, by simp, by simp [messageField, rawField]⟩
        (invalidResponse "" none))
      rcases List.mem_cons.1 member with rfl | last
      · exact (message text).map saying
      · obtain rfl := List.mem_singleton.1 last
        exact (decodes_raw depth raw?).map withRaw
  | configuration text =>
      refine decodes_variant rfl (Shape.decodes_record [⟨"message", .string text, saying text⟩]
        ⟨fun entry member => ?_, by simp, by simp [messageField]⟩ (configuration ""))
      obtain rfl := List.mem_singleton.1 member
      exact (message text).map saying
  | network text =>
      refine decodes_variant rfl (Shape.decodes_record [⟨"message", .string text, saying text⟩]
        ⟨fun entry member => ?_, by simp, by simp [messageField]⟩ (network ""))
      obtain rfl := List.mem_singleton.1 member
      exact (message text).map saying

end Error

end LibraryScout.Backend

namespace LibraryScout.Assembly.Document

open LibraryScout.Json

/-! ## Documents -/

def under (fileName : String) (document : Document) : Document :=
  { document with fileName := fileName }

def holding (text : String) (document : Document) : Document :=
  { document with text := text }

theorem decoder_yields (allowed : Number → Prop) (depth : Nat) :
    Yields allowed (decoder (depth + 1)) fun _ => True := by
  refine Shape.decoder_yields (fun field member => ?_)
    (fun name _ => Shape.otherMember_keeps rfl name) trivial
  rcases List.mem_cons.1 member with rfl | last
  · exact (text_yields depth).map under fun _ _ _ _ => trivial
  · obtain rfl := List.mem_singleton.1 last
    exact (text_yields depth).map holding fun _ _ _ _ => trivial

theorem decodes (document : Document) (depth : Nat) :
    Decodes decoder (depth + 1) document.toJson document := by
  refine Shape.decodes_record
    [⟨"file_name", .string document.fileName, under document.fileName⟩,
      ⟨"text", .string document.text, holding document.text⟩]
    ⟨fun entry member => ?_, by simp, by simp⟩ ⟨"", ""⟩
  rcases List.mem_cons.1 member with rfl | last
  · exact (decodes_text depth document.fileName).map under
  · obtain rfl := List.mem_singleton.1 last
    exact (decodes_text depth document.text).map holding

end LibraryScout.Assembly.Document
