import LibraryScout.Json.Printer
import LibraryScout.Log.Filter

/-!
Contract: events as they are shown.

An event is shown as a line of text, whose message has no characters that steer a terminal, or as
an object. The time at which an event was raised is no part of either.
-/

namespace LibraryScout.Log

/-- Characters that steer a terminal, in a form that does not. -/
def harmless (character : Char) : List Char :=
  if character = '\x1b' then "\\x1b".toList
  else if character = '\x07' then "\\x07".toList
  else if character = '\x08' then "\\x08".toList
  else if character = '\x0c' then "\\x0c".toList
  else if character = '\x7f' then "\\x7f".toList
  else if 0x80 ≤ character.toNat ∧ character.toNat ≤ 0x9F then
    "\\u\x7b".toList ++ Nat.toDigits 16 character.toNat ++ ['\x7d']
  else [character]

namespace FieldValue

def shown : FieldValue → String
  | text value => value
  | count value => toString value

def toJson : FieldValue → Json
  | text value => .string value
  | count value => Json.natural value

end FieldValue

namespace Event

/-- An event as text: its severity in five places, its origin where it is asked for, its message
and its fields. -/
def line (options : Options) (event : Event) : String :=
  let label := event.severity.label
  let indent := String.ofList (List.replicate (5 - label.length) ' ')
  let origin := if options.target then event.origin.path ++ ": " else ""
  let message := String.ofList (event.message.toList.flatMap harmless)
  let fields := String.join (event.fields.map fun (name, value) =>
    " " ++ name ++ "=" ++ value.shown)
  indent ++ label ++ " " ++ origin ++ message ++ fields

/-- An event as an object. -/
def toJson (event : Event) : Json :=
  .object [("level", .string event.severity.label),
    ("fields", .object (("message", .string event.message) ::
      event.fields.map fun (name, value) => (name, value.toJson))),
    ("target", .string event.origin.path)]

end Event

end LibraryScout.Log
