import LibraryScout.Json.Printer
import LibraryScout.Json.Shape
import LibraryScout.Source.Context
import LibraryScout.Text.Blank
import LibraryScout.Text.Lowercase

/-!
Contract: what is exchanged with the backend.

Owns:
- requests and answers as types, with their form in data;
- intents in normal form: trimmed, in lower case, with low lines for spaces;
- attaching snippets to suggestions.

A suggestion has a module and any further details, which are passed through untouched and in
order; no detail is called `module`.
-/

namespace LibraryScout.Backend

open LibraryScout.Json LibraryScout.Source

/-! ## Requests -/

/-- An intent in normal form. -/
def normalizeIntent (intent : String) : String :=
  String.ofList ((Text.lowercase (Text.trim intent.toList)).map fun character =>
    if character = ' ' then '_' else character)

/-- A search for modules that serve an intent. -/
structure SearchRequest where
  context : List String
  intent : String
  filter? : Option String
deriving DecidableEq, Repr

namespace SearchRequest

/-- A search within a context; an empty filter counts as none. -/
def of (context : Context) (intent : String) (filter? : Option String) : SearchRequest :=
  ⟨context.identifiers, normalizeIntent intent, filter?.filter fun filter => filter ≠ ""⟩

def toJson (request : SearchRequest) : Json :=
  .object ([("context", Json.strings request.context), ("intent", .string request.intent)] ++
    match request.filter? with
    | some filter => [("filter", .string filter)]
    | none => [])

end SearchRequest

/-! ## Suggestions -/

structure Suggestion where
  moduleName : String
  details : Members
deriving Repr

namespace Suggestion

def toJson (suggestion : Suggestion) : Json :=
  .object (("module", .string suggestion.moduleName) :: suggestion.details)

/-- A suggestion while its members are read; details may repeat. -/
def shape : Shape Suggestion :=
  { title := "struct Suggestion"
    fields :=
      [⟨"module", true, fun depth input =>
        (Decoder.text depth input).map fun (value, rest) =>
          (fun suggestion => { suggestion with moduleName := value }, rest)⟩]
    other := some fun name depth input =>
      (Decoder.any depth input).map fun (value, rest) =>
        (fun suggestion =>
          { suggestion with details := suggestion.details.insert name value }, rest)
    listed := false }

def decoder : Decoder Suggestion :=
  shape.decoder ⟨"", []⟩

/-- The usage snippet of a suggestion. -/
def snippet? (suggestion : Suggestion) : Option Json :=
  suggestion.details.get? "snippet"

/-- The suggestion with a snippet among its details. -/
def withSnippet (suggestion : Suggestion) (snippet : Json) : Suggestion :=
  { suggestion with details := suggestion.details.insert "snippet" snippet }

end Suggestion

/-- Usage snippets by module. -/
abbrev Snippets :=
  Members

/-- The answer to a search: suggestions, and every raw identifier that matched. -/
structure SearchResponse where
  filtered : List Suggestion
  raw : List String
deriving Repr

namespace SearchResponse

def toJson (response : SearchResponse) : Json :=
  .object [("filtered", .array (response.filtered.map Suggestion.toJson)),
    ("raw", Json.strings response.raw)]

def decoder : Decoder SearchResponse :=
  Shape.decoder
    { title := "struct SearchResponse"
      fields :=
        [⟨"filtered", false, fun depth input =>
          (Decoder.list Suggestion.decoder depth input).map fun (value, rest) =>
            (fun response => { response with filtered := value }, rest)⟩,
         ⟨"raw", false, fun depth input =>
          (Decoder.list Decoder.text depth input).map fun (value, rest) =>
            (fun response => { response with raw := value }, rest)⟩]
      other := none
      listed := true }
    ⟨[], []⟩

/-- The response with the snippet of every suggestion whose module has one. -/
def attachSnippets (response : SearchResponse) (snippets : Snippets) : SearchResponse :=
  { response with
    filtered := response.filtered.map fun suggestion =>
      match snippets.get? suggestion.moduleName with
      | some snippet => suggestion.withSnippet snippet
      | none => suggestion }

/-- How many suggestions get a snippet. -/
def attachedCount (response : SearchResponse) (snippets : Snippets) : Nat :=
  response.filtered.countP fun suggestion => (snippets.get? suggestion.moduleName).isSome

end SearchResponse

/-! ## Catalogues -/

/-- The libraries of a language. -/
structure Libraries where
  entries : List Json
  total : Nat
deriving Repr

namespace Libraries

def toJson (libraries : Libraries) : Json :=
  .object [("libs", .array libraries.entries), ("total", Json.natural libraries.total)]

def decoder : Decoder Libraries :=
  Shape.decoder
    { title := "struct LibsResponse"
      fields :=
        [⟨"libs", false, fun depth input =>
          (Decoder.list Decoder.any depth input).map fun (value, rest) =>
            (fun libraries => { libraries with entries := value }, rest)⟩,
         ⟨"total", false, fun depth input =>
          (Decoder.bounded largestWhole "u64" depth input).map fun (value, rest) =>
            (fun libraries => { libraries with total := value }, rest)⟩]
      other := none
      listed := true }
    ⟨[], 0⟩

end Libraries

/-- The categories and libraries nearest to a context. -/
structure Categories where
  categories : List Json
  libraries : List Json
deriving Repr

namespace Categories

def toJson (nearest : Categories) : Json :=
  .object [("cats", .array nearest.categories), ("nearestLibs", .array nearest.libraries)]

def decoder : Decoder Categories :=
  Shape.decoder
    { title := "struct NearestCategories"
      fields :=
        [⟨"cats", false, fun depth input =>
          (Decoder.list Decoder.any depth input).map fun (value, rest) =>
            (fun nearest => { nearest with categories := value }, rest)⟩,
         ⟨"nearestLibs", false, fun depth input =>
          (Decoder.list Decoder.any depth input).map fun (value, rest) =>
            (fun nearest => { nearest with libraries := value }, rest)⟩]
      other := none
      listed := true }
    ⟨[], []⟩

end Categories

/-- The body of a request for categories under a filter. -/
def filteredCategories (context : Context) (filter : String) : Json :=
  .object [("context", Json.strings context.identifiers), ("filter", .string filter)]

end LibraryScout.Backend
