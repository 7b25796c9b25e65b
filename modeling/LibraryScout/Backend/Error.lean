import LibraryScout.Json.Shape

/-!
Contract: the ways in which talking to the backend fails.

Owns the failures, their wording, and their form in data: an object whose one member names the
failure and holds its details.
-/

namespace LibraryScout.Backend

inductive Error where
  /-- The server answered with a status that is no success. -/
  | api (message : String) (status? : Option Nat)
  /-- No answer within a number of seconds. -/
  | timeout (seconds : Nat)
  /-- The body of an answer is not what was asked for; the raw text may be kept in part. -/
  | invalidResponse (message : String) (raw? : Option String)
  /-- The client cannot be built from its settings. -/
  | configuration (message : String)
  /-- The connection failed. -/
  | network (message : String)
deriving DecidableEq, Repr

namespace Error

/-- The name of a failure in data. -/
def name : Error → String
  | api _ _ => "ApiError"
  | timeout _ => "TimeoutError"
  | invalidResponse _ _ => "InvalidResponse"
  | configuration _ => "ConfigurationError"
  | network _ => "NetworkError"

/-- The wording of a failure. -/
def message : Error → String
  | api text (some status) => "API error (" ++ toString status ++ "): " ++ text
  | api text none => "API error: " ++ text
  | timeout seconds => "Request timed out after " ++ toString seconds ++ " seconds"
  | invalidResponse text _ => "Invalid response from backend: " ++ text
  | configuration text => "Configuration error: " ++ text
  | network text => "Network error: " ++ text

/-- The server could not be reached at all. -/
def isConnectivity : Error → Bool
  | network _ => true
  | timeout _ => true
  | _ => false

/-- A value or null. -/
def orNull {α : Type} (encode : α → Json) : Option α → Json
  | some value => encode value
  | none => .null

/-- A failure as data. -/
def toJson (error : Error) : Json :=
  let details : Json.Members :=
    match error with
    | api text status? => [("message", .string text), ("status_code", orNull Json.natural status?)]
    | timeout seconds => [("seconds", Json.natural seconds)]
    | invalidResponse text raw? =>
        [("message", .string text), ("raw_response", orNull Json.string raw?)]
    | configuration text => [("message", .string text)]
    | network text => [("message", .string text)]
  .object [(error.name, .object details)]

/-! ## Reading failures from data -/

open LibraryScout.Json

/-- The title of a failure's details in messages. -/
def title (variant : String) : String :=
  "struct variant BackendError::" ++ variant

/-- A required text among the details. -/
def messageField : Json.Field Error :=
  ⟨"message", true, fun depth input =>
    (Decoder.text depth input).map fun (value, rest) =>
      (fun error =>
        match error with
        | api _ status? => api value status?
        | invalidResponse _ raw? => invalidResponse value raw?
        | configuration _ => configuration value
        | network _ => network value
        | timeout seconds => timeout seconds, rest)⟩

/-- The status among the details; it need not be given. -/
def statusField : Json.Field Error :=
  ⟨"status_code", false, fun depth input =>
    (Decoder.optional (Decoder.bounded 65535 "u16") depth input).map fun (value, rest) =>
      (fun error =>
        match error with
        | api text _ => api text value
        | other => other, rest)⟩

def secondsField : Json.Field Error :=
  ⟨"seconds", true, fun depth input =>
    (Decoder.bounded largestWhole "u64" depth input).map fun (value, rest) =>
      (fun _ => timeout value, rest)⟩

def rawField : Json.Field Error :=
  ⟨"raw_response", false, fun depth input =>
    (Decoder.optional Decoder.text depth input).map fun (value, rest) =>
      (fun error =>
        match error with
        | invalidResponse text _ => invalidResponse text value
        | other => other, rest)⟩

/-- The details of one failure. -/
def details (variant : String) (fields : List (Json.Field Error)) (start : Error) :
    String × Payload Error :=
  (variant, .record (Shape.decoder ⟨title variant, fields, none, true⟩ start))

/-- Reads a failure from data. -/
def decoder : Decoder Error :=
  Decoder.variant
    [details "ApiError" [messageField, statusField] (api "" none),
     details "TimeoutError" [secondsField] (timeout 0),
     details "InvalidResponse" [messageField, rawField] (invalidResponse "" none),
     details "ConfigurationError" [messageField] (configuration ""),
     details "NetworkError" [messageField] (network "")]

end Error

end LibraryScout.Backend
