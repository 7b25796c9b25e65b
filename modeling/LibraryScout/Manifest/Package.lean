import LibraryScout.Json.Reader
import LibraryScout.Log.Event
import LibraryScout.Source.Extraction

/-!
Contract: the dependencies of a package manifest.

A manifest is a JSON value; its dependencies are the names of the members of its `dependencies`
object, in order. A text that is no JSON value has none, and the reason is reported.
-/

namespace LibraryScout.Manifest.Package

open LibraryScout.Source

/-- The members of the `dependencies` object. -/
def dependencies? (manifest : Json) : Option Json.Members :=
  match manifest.member? "dependencies" with
  | some (.object members) => some members
  | _ => none

/-- The names of the dependencies of a manifest, each once. -/
def names (manifest : Json) : Context :=
  match dependencies? manifest with
  | some members => Context.unique (members.map Prod.fst)
  | none => .empty

/-- What a text that is no JSON value is reported with. -/
def unreadable (reason : String) : Log.Event :=
  (Log.Event.warn .packageManifest "Failed to parse package manifest as JSON").withText "error"
    reason

/-- The extraction of a manifest, and what is reported about it. -/
def extract (text : String) : Extraction × List Log.Event :=
  match Json.parse text with
  | .ok manifest => (.ofContext (names manifest) .js, [])
  | .error fault => (.empty .js, [unreadable (fault.message text.toList)])

end LibraryScout.Manifest.Package
