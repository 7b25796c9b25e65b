import LibraryScout.Backend.Wire

/-!
Contract: which raw identifiers a suggested module covers.

A module covers an identifier that is equal to it or goes on with a colon after it. The index of
an answer has one entry for each suggestion, in order, with the covered identifiers in order.
-/

namespace LibraryScout.Backend

/-- A text is the start of another one, or all of it, and a colon follows where it ends early. -/
def coversChars : List Char → List Char → Bool
  | [], [] => true
  | [], next :: _ => next = ':'
  | _ :: _, [] => false
  | letter :: letters, character :: rest => letter = character && coversChars letters rest

/-- A module covers a raw identifier. -/
def covers (moduleName raw : String) : Bool :=
  coversChars moduleName.toList raw.toList

structure IndexEntry where
  moduleName : String
  raw : List String
deriving DecidableEq, Repr

namespace IndexEntry

def toJson (entry : IndexEntry) : Json :=
  .object [("module", .string entry.moduleName), ("raw", Json.strings entry.raw)]

end IndexEntry

/-- Suggestions with the raw identifiers they cover. -/
structure SuggestionIndex where
  entries : List IndexEntry
deriving DecidableEq, Repr

namespace SuggestionIndex

def ofResponse (response : SearchResponse) : SuggestionIndex :=
  ⟨response.filtered.map fun suggestion =>
    ⟨suggestion.moduleName, response.raw.filter (covers suggestion.moduleName)⟩⟩

/-- The identifiers that a module covers, if the module was suggested. -/
def covered? (index : SuggestionIndex) (moduleName : String) : Option (List String) :=
  (index.entries.find? fun entry => entry.moduleName == moduleName).map IndexEntry.raw

def toJson (index : SuggestionIndex) : Json :=
  .object [("entries", .array (index.entries.map IndexEntry.toJson))]

end SuggestionIndex

end LibraryScout.Backend
