import LibraryScout.Log.Event
import LibraryScout.Source.Extraction
import LibraryScout.Source.Kind

/-!
Contract: extractors and the registry that finds one by kind.

An extractor reads documents of one kind. A registry holds at most one extractor for a kind: a new
one takes the place of the old.
-/

namespace LibraryScout.Source

/-- What reads documents of one kind. -/
structure Extractor where
  kind : Kind
  language : Language
  extract : String → Extraction × List Log.Event

/-- Extractors by kind. -/
structure Registry where
  extractors : List Extractor

namespace Registry

def empty : Registry :=
  ⟨[]⟩

/-- The registry with one more extractor, which replaces any of the same kind. -/
def register (registry : Registry) (extractor : Extractor) : Registry :=
  ⟨registry.extractors.filter (fun held => held.kind ≠ extractor.kind) ++ [extractor]⟩

/-- The extractor of a kind. -/
def get? (registry : Registry) (kind : Kind) : Option Extractor :=
  registry.extractors.find? fun held => held.kind = kind

/-- The extractor for a file name. -/
def forFile? (registry : Registry) (fileName : String) : Option Extractor :=
  registry.get? (classify fileName)

end Registry

end LibraryScout.Source
