import LibraryScout.Log.Options
import LibraryScout.Number.Basic
import LibraryScout.Text.Lines
import LibraryScout.Text.Word

/-!
Contract: filters, which decide what events are shown.

A filter is a list of directives. A directive gives a level to the origins whose path starts with
its target, or to all origins; the directive with the longest fitting target decides, and of two
with the same target the later one. Where no directive fits, nothing is shown.

A written filter has its directives between commas: a level alone, a target alone, or a target, an
equals sign and a level. Directives for spans are read but fit no event. A directive that cannot be
read is left out, with a note. A filter without any directive shows errors.
-/

namespace LibraryScout.Log

/-- The gravest level that is not shown any more is the one after this; nothing is shown at all
where there is none. -/
abbrev Threshold :=
  Option Severity

structure Directive where
  target? : Option String
  threshold : Threshold
  /-- The directive is about spans, not about events. -/
  forSpans : Bool
deriving DecidableEq, Repr

abbrev Filter :=
  List Directive

namespace Threshold

def shows (threshold : Threshold) (severity : Severity) : Bool :=
  match threshold with
  | some level => severity.rank ≤ level.rank
  | none => false

/-- The threshold that a name or a number from 0 to 5 stands for. The empty name stands for
errors. -/
def ofName? (text : String) : Option Threshold :=
  let byNumber? : Option Threshold :=
    match Number.whole? text with
    | some 0 => some none
    | some number => (Severity.all.find? fun level => level.rank = number).map some
    | none => none
  match byNumber? with
  | some found => some found
  | none =>
      match String.ofList (text.toList.map Char.toLower) with
      | "" => some (some .error)
      | "off" => some none
      | written => (Severity.all.find? fun level => level.name = written).map some

end Threshold

namespace Directive

def fits (directive : Directive) (origin : Origin) : Bool :=
  !directive.forSpans &&
    match directive.target? with
    | some target => origin.path.startsWith target
    | none => true

/-- How closely a directive is about some origins. -/
def closeness (directive : Directive) : Nat :=
  match directive.target? with
  | some target => target.utf8ByteSize + 1
  | none => 0

/-- Why a directive cannot be read. -/
inductive Fault where
  | malformed
  | unknownLevel
deriving DecidableEq, Repr

def Fault.message : Fault → String
  | malformed => "invalid filter directive"
  | unknownLevel =>
      "error parsing level filter: expected one of \"off\", \"error\", \"warn\", \"info\", " ++
        "\"debug\", \"trace\", or a number 0-5"

/-- The threshold after an equals sign; nothing there stands for all levels. -/
def levelAfter (text : List Char) : Except Fault Threshold :=
  if text = [] then
    .ok (some .trace)
  else
    match Threshold.ofName? (String.ofList text) with
    | some threshold => .ok threshold
    | none => .error .unknownLevel

/-- A directive about spans, from the text after the opening bracket. -/
def ofSpan (target? : Option String) (text : List Char) : Except Fault Directive :=
  match text.dropWhile fun character => character ≠ ']' with
  | ']' :: '=' :: level => do return ⟨target?, ← levelAfter level, true⟩
  | [']'] => .ok ⟨target?, some .trace, true⟩
  | _ => .error .malformed

/-- The directive that a text stands for. -/
def ofText (text : List Char) : Except Fault Directive :=
  let trimmed := Text.trim text
  let isInside (character : Char) : Bool := character ≠ '=' && character ≠ '['
  let first := trimmed.takeWhile isInside
  let target := String.ofList first
  let starts := match trimmed with
    | character :: _ =>
        character = '[' || character = '-' || character = ':' || character = '_' ||
          Text.isWord character
    | [] => true
  if !starts then
    .error .malformed
  else
    match trimmed.dropWhile isInside with
    | [] =>
        match trimmed with
        | [] => .error .malformed
        | _ =>
            match Threshold.ofName? target with
            | some threshold => .ok ⟨none, threshold, false⟩
            | none => .ok ⟨some target, some .trace, false⟩
    | '=' :: level => do return ⟨some target, ← levelAfter level, false⟩
    | _ :: span => ofSpan (if target = "" then none else some target) span

end Directive

namespace Filter

/-- The filter that shows events down to a level. -/
def ofLevel (level : Severity) : Filter :=
  [⟨none, some level, false⟩]

/-- A written filter, and the notes on directives that cannot be read. -/
def ofText (text : String) : Filter × List String :=
  let pieces := (Text.cut ',' text.toList).filter fun piece => piece ≠ []
  let read := pieces.map fun piece => (piece, Directive.ofText piece)
  let directives := read.filterMap fun (_, result) => result.toOption
  let notes := read.filterMap fun (piece, result) =>
    match result with
    | .ok _ => none
    | .error fault =>
        some ("ignoring \x60" ++ String.ofList piece ++ "\x60: " ++ fault.message)
  (if directives = [] then ofLevel .error else directives, notes)

/-- The closest directive for an origin, the later of two that are equally close. -/
def directiveFor? (filter : Filter) (origin : Origin) : Option Directive :=
  filter.foldl (fun best directive =>
      if directive.fits origin then
        match best with
        | some held => if directive.closeness < held.closeness then best else some directive
        | none => some directive
      else best)
    none

/-- Whether an event of an origin is shown. -/
def shows (filter : Filter) (severity : Severity) (origin : Origin) : Bool :=
  match filter.directiveFor? origin with
  | some directive => Threshold.shows directive.threshold severity
  | none => false

/-- The filter of a command line: the one written in the environment, or else the level. -/
def forCommandLine (environment : Settings.Environment) (level : Severity) :
    Filter × List String :=
  match environment.get? "RUST_LOG" with
  | some text => ofText text
  | none => (ofLevel level, [])

end Filter

end LibraryScout.Log
