import LibraryScout.Files.Store
import LibraryScout.Scan.Result
import LibraryScout.Scan.Walk
import LibraryScout.Source.Extractor

/-!
Contract: scanning a directory.

Owns:
- what becomes of what the walk meets: hindrances are reported, directories and files without an
  extractor for their kind are passed by, the first file over the limit ends the scan, a file that
  is too large or cannot be read as UTF-8 counts as skipped, and every other one has its extraction
  kept under its path below the scanned directory;
- the scan's reports.

Does not own: what the walk meets, and the extractors.
-/

namespace LibraryScout.Scan

open LibraryScout.Source

structure Limits where
  reach : Reach
  maxFiles : Nat
  /-- Files with more bytes are skipped. -/
  maxFileSize : Nat

/-- The limits of a scan that sets none: 20 levels, 10000 files, one mebibyte a file. -/
def Limits.usual : Limits :=
  ⟨⟨20, false⟩, 10000, 1024 * 1024⟩

inductive Failure where
  | notFound (path : String)
  | notDirectory (path : String)
  | unresolved (path : String) (fault : Files.Fault)
deriving DecidableEq, Repr

def Failure.message : Failure → String
  | notFound path => "Path does not exist: " ++ path
  | notDirectory path => "Path is not a directory: " ++ path
  | unresolved path fault => "Failed to resolve " ++ path ++ ": " ++ fault.message

/-! ## Reports -/

def started (root : List String) (limits : Limits) : Log.Event :=
  (((Log.Event.info .scan "Starting directory scan").withText "root"
      (Files.Store.pathText root)).withCount "max_depth" limits.reach.maxDepth).withCount
      "max_files" limits.maxFiles

/-- The report of something that keeps the walk from entries. -/
def hindered (hindrance : Hindrance) : Log.Event :=
  (Log.Event.warn .scan "Failed to read directory entry").withText "error" hindrance.message

/-- The report of a file that cannot be read as a text. -/
def unreadable (path : List String) (fault : Files.Fault) : Log.Event :=
  ((Log.Event.warn .scan "Failed to read file").withText "path"
    (Files.Store.pathText path)).withText "error" fault.message

/-- The report that there are more files than the scan may take. -/
def limitReached (filesScanned maxFiles : Nat) : Log.Event :=
  ((Log.Event.warn .scan "Reached file limit, stopping scan").withCount "files_scanned"
    filesScanned).withCount "max_files" maxFiles

def completed (result : Result) : Log.Event :=
  (((Log.Event.info .scan "Directory scan completed").withCount "files_scanned"
      result.filesScanned).withCount "skipped" result.skipped).withCount "with_dependencies"
      result.withDependencies

/-! ## What the walk meets, one after the other -/

/-- The path of an entry below the scanned directory, as one text. -/
def keyBelow (root path : List String) : String :=
  Text.joined "/" (path.drop root.length)

/-- What a scan has found and reported so far. -/
structure Progress where
  result : Result
  events : List Log.Event

namespace Progress

/-- The progress of a scan that has met nothing yet. -/
def start (root : List String) (limits : Limits) : Progress :=
  ⟨⟨Files.Store.pathText root, [], 0, 0⟩, [started root limits]⟩

def report (progress : Progress) (events : List Log.Event) : Progress :=
  { progress with events := progress.events ++ events }

/-- One more file is taken. -/
def count (progress : Progress) : Progress :=
  { progress with result.filesScanned := progress.result.filesScanned + 1 }

/-- One more of the taken files is skipped. -/
def skip (progress : Progress) : Progress :=
  { progress with result.skipped := progress.result.skipped + 1 }

/-- A taken file has an extraction. -/
def keep (progress : Progress) (key : String) (extraction : Extraction) : Progress :=
  { progress with result.files := progress.result.files.insert key extraction }

/-- A taken file is read: it is skipped, or its extraction is kept. -/
def read (progress : Progress) (root : List String) (maxFileSize : Nat) (path : List String)
    (contents : Files.Contents) (extractor : Extractor) : Progress :=
  if maxFileSize < contents.size then
    progress.skip
  else
    match contents.text with
    | .ok text =>
        let (extraction, events) := extractor.extract text
        (progress.report events).keep (keyBelow root path) extraction
    | .error fault => (progress.report [unreadable path fault]).skip

section

variable (progress : Progress)

@[simp] theorem report_result (events : List Log.Event) :
    (progress.report events).result = progress.result := rfl

@[simp] theorem report_events (events : List Log.Event) :
    (progress.report events).events = progress.events ++ events := rfl

@[simp] theorem report_nil : progress.report [] = progress := by
  simp [report]

@[simp] theorem count_result :
    progress.count.result =
      { progress.result with filesScanned := progress.result.filesScanned + 1 } := rfl

@[simp] theorem count_events : progress.count.events = progress.events := rfl

@[simp] theorem skip_result :
    progress.skip.result = { progress.result with skipped := progress.result.skipped + 1 } := rfl

@[simp] theorem skip_events : progress.skip.events = progress.events := rfl

@[simp] theorem keep_result (key : String) (extraction : Extraction) :
    (progress.keep key extraction).result =
      { progress.result with files := progress.result.files.insert key extraction } := rfl

@[simp] theorem keep_events (key : String) (extraction : Extraction) :
    (progress.keep key extraction).events = progress.events := rfl

end

end Progress

/-- Whether a scan goes on. -/
inductive Turn where
  | goOn (progress : Progress)
  | stop (progress : Progress)

/-- What a scan does with one item of its walk. -/
def visit (root : List String) (registry : Registry) (limits : Limits) (progress : Progress) :
    Item → Turn
  | .error hindrance => .goOn (progress.report [hindered hindrance])
  | .ok found =>
      match found.node with
      | .file contents =>
          match registry.forFile? found.name with
          | none => .goOn progress
          | some extractor =>
              -- the limit is looked at before the file counts: the file over it is not counted
              if limits.maxFiles ≤ progress.result.filesScanned then
                .stop (progress.report [limitReached progress.result.filesScanned limits.maxFiles])
              else
                .goOn (progress.count.read root limits.maxFileSize found.path contents extractor)
      | _ => .goOn progress

/-- What a scan does with the items of its walk. -/
def visitAll (root : List String) (registry : Registry) (limits : Limits)
    (progress : Progress) : List Item → Progress
  | [] => progress
  | item :: later =>
      match visit root registry limits progress item with
      | .goOn next => visitAll root registry limits next later
      | .stop last => last

/-- Scans the directory that names lead to from the root of a tree. -/
def scanAt (node : Files.Node) (root : List String) (registry : Registry) (limits : Limits) :
    Result × List Log.Event :=
  let progress := visitAll root registry limits (.start root limits) (walk limits.reach node root)
  (progress.result, progress.events ++ [completed progress.result])

/-- Scans the directory that a path names. -/
def scan (store : Files.Store) (registry : Registry) (limits : Limits) (path : String) :
    Except Failure Result × List Log.Event :=
  match store.find path with
  | .error _ => (.error (.notFound path), [])
  | .ok (names, node) =>
      if node.isDirectory then
        let (result, events) := scanAt store.root names registry limits
        (.ok result, events)
      else
        (.error (.notDirectory path), [])

end LibraryScout.Scan
