import LibraryScout.Json.Skip

/-!
Contract: reading texts of a given shape.

Owns:
- texts, whole numbers within a bound, optional values, lists and maps;
- records, which are read from an object by name or from a list by position;
- variants, which are read from a name or from an object with one member.

Each reader is given how many arrays and objects may still be opened. A fault that concerns a
whole array or object is placed behind its closing bracket, if that is what follows.
-/

namespace LibraryScout.Json

/-- A reader that knows how deep it may go. -/
abbrev Decoder (α : Type) :=
  (depth : Nat) → Reader α

/-- Stops at a value of another type than the expected one. -/
def mismatch {α : Type} (expected : String) : List Char → Except Fault α
  | [] => stopAt .endInValue []
  | '[' :: rest => stop (.invalidType .sequence expected) ('[' :: rest)
  | '\x7b' :: rest => stop (.invalidType .map expected) ('\x7b' :: rest)
  | text =>
      match scalar text with
      | .error fault => .error fault
      | .ok (found, rest) =>
          match found with
          | .bool value => stop (.invalidType (.boolean value) expected) rest
          | .number (.integer value) => stop (.invalidType (.integer value) expected) rest
          | .number (.float value) =>
              stop (.invalidType (.float (LibraryScout.Number.FloatLayout.text ⟨true⟩ value))
                expected) rest
          | .string value => stop (.invalidType (.string value) expected) rest
          | _ => stop (.invalidType .null expected) rest

namespace Decoder

/-- A string. -/
def text : Decoder String :=
  fun _ input =>
    match skipSpace input with
    | '"' :: rest => stringLiteral rest
    | start => mismatch "a string" start

/-- Any value. -/
def any : Decoder Json :=
  Json.value

/-- A whole number from zero up to a largest one; `expected` names the range. -/
def bounded (largest : Nat) (expected : String) : Decoder Nat :=
  fun _ input =>
    match skipSpace input with
    | [] => stopAt .endInValue []
    | character :: rest =>
        if character = '-' || isDigit character then
          match numberLiteral (character :: rest) with
          | .error fault => .error fault
          | .ok (.integer value, after) =>
              if 0 ≤ value && value ≤ largest then .ok (value.toNat, after)
              else stop (.invalidValue (.integer value) expected) after
          | .ok (.float value, after) =>
              stop (.invalidType (.float (LibraryScout.Number.FloatLayout.text ⟨true⟩ value))
                expected) after
        else
          mismatch expected (character :: rest)

/-- A value or null. -/
def optional {α : Type} (inner : Decoder α) : Decoder (Option α) :=
  fun depth input =>
    match skipSpace input with
    | 'n' :: rest => (word ['u', 'l', 'l'] rest).map fun after => (none, after)
    | start => (inner depth start).map fun (value, after) => (some value, after)

/-- A list of items of one shape. -/
def list {α : Type} (item : Decoder α) : Decoder (List α) :=
  fun depth input =>
    match skipSpace input with
    | '[' :: rest =>
        match depth with
        | 0 => stopAt .tooDeep ('[' :: rest)
        | inner + 1 => listBody (item inner) rest
    | start => mismatch "a sequence" start

/-- An object with any members. -/
def map : Decoder Members :=
  fun depth input =>
    match skipSpace input with
    | '\x7b' :: rest =>
        match depth with
        | 0 => stopAt .tooDeep ('\x7b' :: rest)
        | inner + 1 =>
            (objectBody (Json.value inner) rest).map fun (pairs, after) =>
              (Members.ofPairs pairs, after)
    | start => mismatch "a map" start

end Decoder

/-! ## Records -/

/-- What is left after trying to close an object. -/
def afterObject (text : List Char) : List Char :=
  match skipSpace text with
  | '\x7d' :: rest => rest
  | rest => rest

/-- What is left after trying to close a list. -/
def afterList (text : List Char) : List Char :=
  match skipSpace text with
  | ']' :: rest => rest
  | ',' :: rest => skipSpace rest
  | rest => rest

/-- A field of a record: how it changes the record under construction. -/
structure Field (β : Type) where
  name : String
  required : Bool
  read : Decoder (β → β)

/-- A record: its title in messages, its fields, what becomes of members with other names, and
whether it may be written as a list. -/
structure Shape (β : Type) where
  title : String
  fields : List (Field β)
  other : Option (String → Decoder (β → β))
  listed : Bool

namespace Shape

variable {β : Type}

/-- The title of a record together with the number of its fields. -/
def sizedTitle (shape : Shape β) : String :=
  let count := shape.fields.length
  shape.title ++ " with " ++ toString count ++ (if count = 1 then " element" else " elements")

/-- Reads fields by position; `index` fields have been read. -/
def positions (shape : Shape β) (depth : Nat) (index : Nat) (record : β) :
    List (Field β) → Reader β
  | [], text => (closeList text).map fun rest => (record, rest)
  | field :: later, text =>
      match nextItem (index == 0) text with
      | .error fault => .error fault
      | .ok none =>
          if field.required then
            stop (.invalidLength index shape.sizedTitle) (afterList text)
          else
            positions shape depth (index + 1) record later text
      | .ok (some start) =>
          match field.read depth start with
          | .error fault => .error fault
          | .ok (change, rest) => positions shape depth (index + 1) (change record) later rest

/-- The name of a required field that was not read. -/
def missing? (shape : Shape β) (seen : List String) : Option String :=
  (shape.fields.find? fun field => field.required && !seen.contains field.name).map (·.name)

/-- Reads the value of a member with a name that is not a field's. -/
def otherMember (shape : Shape β) (name : String) : Decoder (β → β) :=
  fun depth text =>
    match shape.other with
    | some read => read name depth text
    | none => (Skip.value text).map fun rest => (id, rest)

/-- Reads fields by name; `seen` lists the fields that have been read. -/
def named (shape : Shape β) (depth : Nat) (isFirst : Bool) (seen : List String) (record : β) :
    (steps : Nat) → Reader β
  | 0, text => stopAt .endInObject text
  | steps + 1, text =>
      match nextMember isFirst text with
      | .error fault => .error fault
      | .ok none =>
          match shape.missing? seen with
          | some name => stop (.missingField name) (afterObject text)
          | none => (closeObject text).map fun rest => (record, rest)
      | .ok (some (name, afterName)) =>
          let field? := shape.fields.find? fun field => field.name == name
          if field?.isSome && seen.contains name then
            stop (.duplicateField name) (afterObject afterName)
          else
            match colon afterName with
            | .error fault => .error fault
            | .ok start =>
                let read :=
                  match field? with
                  | some field => field.read
                  | none => shape.otherMember name
                match read depth start with
                | .error fault => .error fault
                | .ok (change, rest) =>
                    named shape depth false (name :: seen) (change record) steps rest

/-- Reads a record, starting from one in which every optional field has its default. -/
def decoder (shape : Shape β) (start : β) : Decoder β :=
  fun depth input =>
    match skipSpace input with
    | '\x7b' :: rest =>
        match depth with
        | 0 => stopAt .tooDeep ('\x7b' :: rest)
        | inner + 1 => shape.named inner true [] start (rest.length + 1) rest
    | '[' :: rest =>
        if shape.listed then
          match depth with
          | 0 => stopAt .tooDeep ('[' :: rest)
          | inner + 1 => shape.positions inner 0 start shape.fields rest
        else
          mismatch shape.title ('[' :: rest)
    | text => mismatch shape.title text

end Shape

/-! ## Variants -/

/-- What belongs to a variant: nothing, or a record. -/
inductive Payload (α : Type) where
  | unit (value : α)
  | record (read : Decoder α)

namespace Decoder

variable {α : Type}

/-- The name of a variant, which must be a known one. -/
def variantName (known : List (String × Payload α)) (input : List Char) :
    Except Fault (Payload α × List Char) :=
  match skipSpace input with
  | '"' :: rest =>
      match stringLiteral rest with
      | .error fault => .error fault
      | .ok (name, after) =>
          match known.find? fun variant => variant.1 == name with
          | some variant => .ok (variant.2, after)
          | none => stop (.unknownVariant name (known.map Prod.fst)) after
  | text => mismatch "variant identifier" text

/-- The payload of a variant that is written as an object. -/
def payload (depth : Nat) : Payload α → Reader α
  | .record read => read depth
  | .unit value => fun input =>
      match skipSpace input with
      | 'n' :: rest => (word ['u', 'l', 'l'] rest).map fun after => (value, after)
      | text => mismatch "unit" text

/-- One of several variants: the name of a variant without a record, or an object whose only
member has the name of a variant. -/
def variant (known : List (String × Payload α)) : Decoder α :=
  fun depth input =>
    match skipSpace input with
    | [] => stopAt .endInValue []
    | '"' :: rest =>
        match variantName known ('"' :: rest) with
        | .error fault => .error fault
        | .ok (.unit value, after) => .ok (value, after)
        | .ok (.record _, _) => .error ⟨.invalidType .unitVariant "struct variant", none⟩
    | '\x7b' :: rest =>
        match depth with
        | 0 => stopAt .tooDeep ('\x7b' :: rest)
        | inner + 1 =>
            match variantName known rest with
            | .error fault => .error fault
            | .ok (held, afterName) =>
                match colon afterName with
                | .error fault => .error fault
                | .ok start =>
                    match payload inner held start with
                    | .error fault => .error fault
                    | .ok (value, afterValue) =>
                        match skipSpace afterValue with
                        | [] => stop .endInObject []
                        | '\x7d' :: after => .ok (value, after)
                        | after => stop .expectedValue after
    | text => stopAt .expectedValue text

/-- A name out of a list of names with their values. -/
def choice (names : List (String × α)) : Decoder α :=
  variant (names.map fun (name, value) => (name, .unit value))

end Decoder

/-- Decodes a whole text. -/
def decode {α : Type} (decoder : Decoder α) (text : String) : Except Fault α :=
  whole (decoder depthLimit) text

end LibraryScout.Json
