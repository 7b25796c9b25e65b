import LibraryScout.Ignore.Written
import LibraryScout.Text.Blank
import LibraryScout.Text.Lines

/-!
Contract: ignore files, the rules they hold, and what the rules say about a path.

Owns:
- reading an ignore file: one rule a line, blank lines and lines that start with a hash hold none,
  and a line that is no glob is passed over; reading ends at the first line that is not UTF-8;
- complaints about the lines that are passed over;
- the verdict of the rules of one file: the last rule that covers a path decides.

Paths are relative to the directory of the ignore file.
-/

namespace LibraryScout.Ignore

/-- One line of an ignore file. -/
structure Rule where
  /-- The rule asks to keep what it covers, not to ignore it. -/
  keeps : Bool
  onlyDirectories : Bool
  glob : Glob
deriving Repr

/-- What rules say about a path. -/
inductive Verdict where
  | ignored
  | kept
deriving DecidableEq, Repr

namespace Rule

/-- Whether a rule speaks about a path. -/
def covers (rule : Rule) (path : Bytes) (isDirectory : Bool) : Bool :=
  (isDirectory || !rule.onlyDirectories) && rule.glob.covers path

def verdict (rule : Rule) : Verdict :=
  if rule.keeps then .kept else .ignored

/-! ## Reading one line -/

/-- A line without the white space it ends with; an escaped blank at its end protects all of it. -/
def withoutTrailingBlanks (line : List Char) : List Char :=
  if ['\\', ' '].isSuffixOf line then line else Text.trimRight line

/-- The mark that turns a rule around, and the slash that ties it to its directory: whether each is
there, and the line without them. A backslash before a mark or a hash takes away its meaning. -/
def marks (line : List Char) : Bool × Bool × List Char :=
  let tied (rest : List Char) : Bool × List Char :=
    match rest with
    | '/' :: later => (true, later)
    | _ => (false, rest)
  match line with
  | '\\' :: '!' :: rest => (false, false, '!' :: rest)
  | '\\' :: '#' :: rest => (false, false, '#' :: rest)
  | '!' :: rest => (true, tied rest)
  | _ => (false, tied line)

/-- Whether a line ends with a slash, and the line without it and without a backslash before it. -/
def directoryMark (line : List Char) : Bool × List Char :=
  match line.reverse with
  | '/' :: '\\' :: before => (true, before.reverse)
  | '/' :: before => (true, before.reverse)
  | _ => (false, line)

/-- Names that may stand below any directory. -/
def anywhere (line : List Char) : List Char :=
  if "**/".toList.isPrefixOf line || line == "**".toList then line else "**/".toList ++ line

/-- A line that ends with two stars covers what is in a directory, not the directory. -/
def insideOnly (line : List Char) : List Char :=
  if "/**".toList.isSuffixOf line then line ++ "/*".toList else line

/-- The rule on a line, if there is one and it is a glob. -/
def ofLine (line : List Char) : Except Glob.Fault (Option Rule) :=
  if line.head? = some '#' then
    .ok none
  else
    let line := withoutTrailingBlanks line
    if line = [] then
      .ok none
    else
      let (keeps, tied, rest) := marks line
      let (onlyDirectories, body) := directoryMark rest
      let located := if tied || body.contains '/' then body else anywhere body
      (Glob.ofText (insideOnly located)).map fun glob => some ⟨keeps, onlyDirectories, glob⟩

end Rule

/-! ## Complaints -/

/-- What is wrong with a line of an ignore file. -/
inductive Flaw where
  | noGlob (written : String) (fault : Glob.Fault)
  | notText
deriving DecidableEq, Repr

def Flaw.message : Flaw → String
  | noGlob written fault => "error parsing glob '" ++ written ++ "': " ++ fault.message
  | notText => "stream did not contain valid UTF-8"

/-- A line of an ignore file that holds no rule although it should. -/
structure Complaint where
  /-- The path to the file. -/
  file : String
  line : Nat
  flaw : Flaw
deriving DecidableEq, Repr

def Complaint.message (complaint : Complaint) : String :=
  complaint.file ++ ": line " ++ toString complaint.line ++ ": " ++ complaint.flaw.message

/-! ## Reading a file -/

/-- The rules of one ignore file, in the order of its lines. -/
abbrev Rules :=
  List Rule

namespace Rules

/-- The lines of a file as bytes. A line feed ends a line, together with a carriage return right
before it. -/
def byteLines : Bytes → List Bytes
  | [] => []
  | 13 :: 10 :: rest => [] :: byteLines rest
  | 10 :: rest => [] :: byteLines rest
  | byte :: rest =>
      match byteLines rest with
      | [] => [[byte]]
      | line :: lines => (byte :: line) :: lines

/-- The lines up to the first that is not UTF-8. -/
def textLines : List Bytes → List (List Char)
  | [] => []
  | line :: lines =>
      match String.fromUTF8? (ByteArray.mk line.toArray) with
      | some text => text.toList :: textLines lines
      | none => []

/-- The lines of a file without the byte order marks the file starts with. -/
def withoutMark : List (List Char) → List (List Char)
  | [] => []
  | first :: others => first.dropWhile (fun character => character = '\uFEFF') :: others

/-- The lines that are read from a file with these contents. -/
def linesOf (contents : ByteArray) : List (List Char) :=
  withoutMark (textLines (byteLines contents.toList))

/-- The rules of an ignore file with these contents. -/
def ofContents (contents : ByteArray) : Rules :=
  (linesOf contents).filterMap fun line =>
    match Rule.ofLine line with
    | .ok rule? => rule?
    | .error _ => none

/-- The complaint about a line, if it is no glob. -/
def complaint? (file : String) (number : Nat) (line : List Char) : Option Complaint :=
  match Rule.ofLine line with
  | .ok _ => none
  | .error fault =>
      some ⟨file, number, .noGlob (String.ofList (Rule.withoutTrailingBlanks line)) fault⟩

/-- The complaints about an ignore file with these contents. That a line is not UTF-8 is said only
beside other complaints. -/
def complaints (file : String) (contents : ByteArray) : List Complaint :=
  let lines := linesOf contents
  let noGlobs := (lines.zipIdx 1).filterMap fun (line, number) => complaint? file number line
  if noGlobs = [] ∨ lines.length = (byteLines contents.toList).length then
    noGlobs
  else
    noGlobs ++ [⟨file, lines.length + 1, .notText⟩]

/-- What the rules say about a path: the last one that covers it decides. -/
def verdict? (rules : Rules) (path : Bytes) (isDirectory : Bool) : Option Verdict :=
  (rules.reverse.find? fun rule => rule.covers path isDirectory).map Rule.verdict

end Rules

end LibraryScout.Ignore
