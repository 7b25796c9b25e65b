import LibraryScout.Json.Shape
import LibraryScout.Source.Extraction
import LibraryScout.Source.Kind

/-!
Contract: languages, kinds and warnings in data.

Each is written as its name and read from one of the known names.
-/

namespace LibraryScout.Source

open LibraryScout.Json

namespace Language

def toJson (language : Language) : Json :=
  .string language.name

def decoder : Decoder Language :=
  Decoder.choice (all.map fun language => (language.name, language))

end Language

namespace Kind

def toJson (kind : Kind) : Json :=
  .string kind.name

def decoder : Decoder Kind :=
  Decoder.choice (all.map fun kind => (kind.name, kind))

end Kind

namespace Warning

/-- Every warning. -/
def all : List Warning :=
  [noImportStatements]

def toJson (warning : Warning) : Json :=
  .string warning.name

def decoder : Decoder Warning :=
  Decoder.choice (all.map fun warning => (warning.name, warning))

end Warning

end LibraryScout.Source
