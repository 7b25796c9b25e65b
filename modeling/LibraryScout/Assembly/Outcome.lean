import LibraryScout.Backend.Error
import LibraryScout.Source.Extraction

/-!
Contract: what becomes of a document handed in for its context.

A document either has an extraction or is of no supported kind; there may be no document at all.
Mapping the packages of a document to modules may fail.
-/

namespace LibraryScout.Source

namespace Extraction

/-- The members of an extraction as data; warnings only where there are some. -/
def members (extraction : Extraction) : Json.Members :=
  [("context", Json.strings extraction.context.identifiers),
   ("language", .string extraction.language.name)] ++
  if extraction.warnings.isEmpty then []
  else [("warnings", Json.strings (extraction.warnings.map Warning.name))]

def toJson (extraction : Extraction) : Json :=
  .object extraction.members

end Extraction

end LibraryScout.Source

namespace LibraryScout.Assembly

open LibraryScout.Source

inductive Outcome where
  | extracted (extraction : Extraction)
  | unsupported (fileName : String)
  | noDocument
deriving DecidableEq, Repr

namespace Outcome

/-- The extraction, where there is one. -/
def extraction? : Outcome → Option Extraction
  | extracted extraction => some extraction
  | _ => none

/-- An outcome as data: its status, and what belongs to it. -/
def toJson : Outcome → Json
  | extracted extraction => .object (("status", .string "extracted") :: extraction.members)
  | unsupported fileName =>
      .object [("status", .string "unsupported"), ("file_name", .string fileName)]
  | noDocument => .object [("status", .string "no_document")]

end Outcome

/-- The packages of a document could not be mapped to modules. -/
structure Failure where
  language : Language
  packageCount : Nat
  source : Backend.Error
deriving DecidableEq, Repr

/-- The wording of a failure. -/
def Failure.message (failure : Failure) : String :=
  "Failed to resolve " ++ toString failure.packageCount ++ " " ++ failure.language.name ++
    " packages into modules: " ++ failure.source.message

end LibraryScout.Assembly
