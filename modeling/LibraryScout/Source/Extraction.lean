import LibraryScout.Source.Context
import LibraryScout.Source.Language

/-!
Contract: what is read out of one document.

An extraction is a context, the language under which it is looked up, and warnings. Reading a
document never fails: a document that cannot be read has an empty context.
-/

namespace LibraryScout.Source

/-- Signals about a document that do not stop its extraction. -/
inductive Warning where
  | noImportStatements
deriving DecidableEq, Repr

namespace Warning

/-- The name of a warning in data. -/
def name : Warning → String
  | noImportStatements => "no_import_statements"

/-- The text of a warning for readers. -/
def message : Warning → String
  | noImportStatements => "No import statements found in active document"

end Warning

/-- The dependencies of one document. -/
structure Extraction where
  context : Context
  language : Language
  warnings : List Warning
deriving DecidableEq, Repr

namespace Extraction

/-- An extraction without warnings. -/
def ofContext (context : Context) (language : Language) : Extraction :=
  ⟨context, language, []⟩

/-- An extraction that found nothing. -/
def empty (language : Language) : Extraction :=
  ofContext .empty language

end Extraction

end LibraryScout.Source
