import LibraryScout.Assembly.Document
import LibraryScout.Assembly.Outcome
import LibraryScout.Extractors
import LibraryScout.Run

/-!
Contract: from documents to contexts.

Owns:
- the choice of the extractor by the kind of a document;
- the one request that maps the packages of a Java source to modules; none is made where there
  are no packages;
- the choice of a document: the active one unless its kind is unsupported and another document
  is visible.

The resolver is any run over any state, so the same assembler serves a server and a script.
-/

namespace LibraryScout.Assembly

open LibraryScout.Source

/-- Maps the packages of a language to modules. -/
abbrev Resolver (σ : Type) :=
  Language → List String → Run σ (Except Backend.Error (List String))

/-- What turns documents into contexts. -/
structure Assembler (σ : Type) where
  registry : Registry
  resolve : Resolver σ

namespace Assembler

variable {σ : Type}

/-- Reported when an extraction needs no mapping. -/
def extractedEvent (fileName : String) (extraction : Extraction) : Log.Event :=
  ((Log.Event.info .assembly ("Extracted " ++ extraction.language.name ++ " context")).withText
    "file" fileName).withCount "count" extraction.context.size

/-- Reported when packages have been mapped to modules. -/
def resolvedEvent (fileName : String) (extraction : Extraction) (found : Context) : Log.Event :=
  (((Log.Event.info .assembly ("Resolved " ++ extraction.language.name ++ " context")).withText
    "file" fileName).withCount "packages" extraction.context.size).withCount
      "modules" found.size

/-- Reported when packages could not be mapped. -/
def failedEvent (fileName : String) (error : Backend.Error) : Log.Event :=
  ((Log.Event.warn .assembly "Module resolution failed").withText "file" fileName).withText
    "error" error.message

/-- Maps the packages of an extraction to modules, if it has any. -/
def resolveModules (assembler : Assembler σ) (fileName : String) (extraction : Extraction) :
    Run σ (Except Failure Extraction) :=
  if extraction.context.isEmpty then
    Run.pure (.ok extraction)
  else do
    match ← assembler.resolve extraction.language extraction.context.identifiers with
    | .error error =>
        Run.report (failedEvent fileName error)
        Run.pure (.error ⟨extraction.language, extraction.context.size, error⟩)
    | .ok modules =>
        let found := Context.unique modules
        Run.report (resolvedEvent fileName extraction found)
        Run.pure (.ok { extraction with context := found })

/-- The context of one document. -/
def extractContext (assembler : Assembler σ) (fileName text : String) :
    Run σ (Except Failure Outcome) :=
  let kind := classify fileName
  match assembler.registry.get? kind with
  | none => Run.pure (.ok (.unsupported fileName))
  | some extractor => do
      let (extraction, events) := extractor.extract text
      Run.reportAll events
      if kind.needsResolution then
        match ← assembler.resolveModules fileName extraction with
        | .ok resolved => Run.pure (.ok (.extracted resolved))
        | .error failure => Run.pure (.error failure)
      else
        Run.report (extractedEvent fileName extraction)
        Run.pure (.ok (.extracted extraction))

/-- The document to extract from: the active one, or the first visible one where there is no
active one or its kind is unsupported. -/
def selected? (active? : Option Document) (visible : List Document) : Option Document :=
  match active? with
  | some document =>
      if document.kind.isSupported then some document else visible.head?.or (some document)
  | none => visible.head?

/-- The context of the selected document. -/
def extractActive (assembler : Assembler σ) (active? : Option Document)
    (visible : List Document) : Run σ (Except Failure Outcome) :=
  match selected? active? visible with
  | some document => assembler.extractContext document.fileName document.text
  | none => Run.pure (.ok .noDocument)

end Assembler

end LibraryScout.Assembly
