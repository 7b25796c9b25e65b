import LibraryScout.Assembly.Outcome
import LibraryScout.Backend.Suggestions
import LibraryScout.Scan.Result
import LibraryScout.Source.Kind
import LibraryScout.Text.Lines
import LibraryScout.Yaml.Printer

/-!
Contract: results as they are shown.

Every result is shown as indented JSON, as YAML, or as text for readers. The first two show all of
it; the texts are laid out here, one function for each kind of result.
-/

namespace LibraryScout.Report

open LibraryScout.Assembly LibraryScout.Backend LibraryScout.Source

/-- The forms in which a result is shown. -/
inductive Format where
  | json
  | yaml
  | human
deriving DecidableEq, Repr

/-- A result in a form, from its text for readers and its data. -/
def render (format : Format) (text : String) (data : Json) : String :=
  match format with
  | .json => data.indented
  | .yaml => Yaml.print data
  | .human => text

/-- Lines, each with its line feed. -/
def lines (texts : List String) : String :=
  String.join (texts.map (· ++ "\n"))

/-- A text without the white space it ends with. -/
def trimmedEnd (text : String) : String :=
  String.ofList (Text.trimRight text.toList)

/-- Items with commas, or a dash where there are none. -/
def listed (items : List String) : String :=
  if items.isEmpty then "-" else Text.joined ", " items

/-- A value for readers: strings as they are, all else as compact JSON. -/
def shown : Json → String
  | .string text => text
  | other => other.compact

/-- A value as an item of a list for readers. -/
def bullet (value : Json) : String :=
  "  - " ++ shown value

/-! ## Classifications -/

/-- The kind of one file name. -/
structure Classification where
  fileName : String
  kind : Kind
deriving DecidableEq, Repr

namespace Classification

def toJson (classification : Classification) : Json :=
  .object [("file_name", .string classification.fileName),
    ("kind", .string classification.kind.name),
    ("language",
      match classification.kind.language? with
      | some language => .string language.name
      | none => .null)]

def text (classification : Classification) : String :=
  classification.fileName ++ ": " ++ classification.kind.title ++ " (language: " ++
    (match classification.kind.language? with
      | some language => language.name
      | none => "-") ++ ")"

end Classification

def classification (format : Format) (result : Classification) : String :=
  render format result.text result.toJson

/-! ## Outcomes -/

/-- What is said about a file of no supported kind. -/
def unsupportedGuidance (fileName : String) : String :=
  "'" ++ fileName ++ "' is not a supported file type. Supported file types: " ++
    Text.joined ", " Kind.suffixes ++
    " (Maven pom.xml, package.json and requirements.txt manifests are recognized by extension)"

/-- What is said where there is no document. -/
def noDocumentGuidance : String :=
  "No document to extract from. Open a file of a supported type: " ++
    Text.joined ", " Kind.suffixes

def extractionText (extraction : Extraction) : String :=
  trimmedEnd (lines
    (["Language: " ++ extraction.language.name,
      "Dependencies (" ++ toString extraction.context.size ++ "):"] ++
     extraction.context.identifiers.map ("  - " ++ ·) ++
     extraction.warnings.map fun warning => "Warning: " ++ warning.message))

def outcomeText : Outcome → String
  | .extracted extraction => extractionText extraction
  | .unsupported fileName => unsupportedGuidance fileName
  | .noDocument => noDocumentGuidance

def outcome (format : Format) (result : Outcome) : String :=
  render format (outcomeText result) result.toJson

/-! ## Scans -/

def scanText (result : Scan.Result) : String :=
  lines (result.files.map fun (path, extraction) =>
    path ++ " [" ++ extraction.language.name ++ "]: " ++
      listed extraction.context.identifiers) ++
  "\n" ++ toString result.filesScanned ++ " files scanned, " ++
    toString result.withDependencies ++ " with dependencies, " ++ toString result.skipped ++
    " skipped"

def scan (format : Format) (result : Scan.Result) : String :=
  render format (scanText result) result.toJson

/-! ## Suggestions -/

/-- The suggestions for an intent within a context. -/
structure Suggestions where
  language : Language
  intent : String
  context : List String
  response : SearchResponse
  index : SuggestionIndex

namespace Suggestions

def toJson (report : Suggestions) : Json :=
  .object [("language", .string report.language.name), ("intent", .string report.intent),
    ("context", Json.strings report.context), ("suggestions", report.response.toJson),
    ("index", report.index.toJson)]

/-- The snippet of the first suggestion with a module. -/
def snippetFor? (report : Suggestions) (moduleName : String) : Option Json :=
  match report.response.filtered.find? fun suggestion => suggestion.moduleName == moduleName with
  | some suggestion => suggestion.snippet?
  | none => none

/-- The lines of a snippet. -/
def snippetLines (snippet : Json) : List String :=
  (Text.displayLines (shown snippet).toList).map fun line => "     | " ++ String.ofList line

/-- The lines of one entry of the index. -/
def entryLines (report : Suggestions) (rank : Nat) (entry : IndexEntry) : List String :=
  ["  " ++ toString rank ++ ". " ++ entry.moduleName] ++
  (if entry.raw.isEmpty then [] else ["     covers: " ++ Text.joined ", " entry.raw]) ++
  match report.snippetFor? entry.moduleName with
  | some snippet => snippetLines snippet
  | none => []

/-- The lines of entries, the first of which has a given rank. -/
def rankedLines (report : Suggestions) (rank : Nat) : List IndexEntry → List String
  | [] => []
  | entry :: others => report.entryLines rank entry ++ report.rankedLines (rank + 1) others

def heading (report : Suggestions) : String :=
  "Suggestions for '" ++ report.intent ++ "' (" ++ report.language.name ++ ", context: " ++
    listed report.context ++ ")"

def text (report : Suggestions) : String :=
  if report.index.entries.isEmpty then
    report.heading ++ "\n  No suggestions found"
  else
    trimmedEnd (lines (report.heading :: report.rankedLines 1 report.index.entries))

end Suggestions

def suggestions (format : Format) (report : Suggestions) : String :=
  render format report.text report.toJson

/-! ## Catalogues -/

def categories (format : Format) (nearest : Categories) : String :=
  render format
    (trimmedEnd (lines
      (["Nearest categories:"] ++ nearest.categories.map bullet ++ ["Nearest libraries:"] ++
        nearest.libraries.map bullet)))
    nearest.toJson

def intents (format : Format) (language : Language) (known : List Json) : String :=
  render format
    (trimmedEnd (lines
      (("Intents for " ++ language.name ++ " (" ++ toString known.length ++ "):") ::
        known.map bullet)))
    (.array known)

def libraries (format : Format) (language : Language) (known : Libraries) : String :=
  render format
    (trimmedEnd (lines
      (("Libraries for " ++ language.name ++ " (" ++ toString known.total ++ " total):") ::
        known.entries.map bullet)))
    known.toJson

end LibraryScout.Report
