/-!
Contract: globs, patterns for paths, and which paths they match.

Owns:
- the tokens of a glob and what each takes from the front of a path's UTF-8 bytes;
- matching: a glob matches a path when its tokens can take the path from end to end.

Does not own: the written form of a glob.

A single character wildcard and a set take one byte, so a character beyond ASCII counts as several.
-/

namespace LibraryScout.Ignore

/-- The bytes of a text. -/
abbrev Bytes :=
  List UInt8

namespace Bytes

def ofChars (text : List Char) : Bytes :=
  text.flatMap String.utf8EncodeChar

/-- The byte that stands between the names of a path. -/
def slash : UInt8 :=
  47

/-- All that can remain of a text when some bytes that pass a test are taken from its front. -/
def afterRun (passes : UInt8 → Bool) : Bytes → List Bytes
  | [] => [[]]
  | byte :: rest => (byte :: rest) :: (if passes byte then afterRun passes rest else [])

/-- All that can remain of a text after one of its slashes. -/
def afterSlashes : Bytes → List Bytes
  | [] => []
  | byte :: rest => if byte = slash then rest :: afterSlashes rest else afterSlashes rest

end Bytes

/-- One part of a glob. -/
inductive Token where
  /-- One character as it is. -/
  | literal (character : Char)
  /-- Any byte but a slash. -/
  | anyByte
  /-- Any run of bytes without a slash. -/
  | anyRun
  /-- One byte that is within, or not within, some ranges. -/
  | oneOf (negated : Bool) (ranges : List (UInt8 × UInt8))
  /-- Any directories at the start of a path, or none. -/
  | leadingDirectories
  /-- A slash and all that follows it. -/
  | trailingPath
  /-- A slash, and any directories that follow it. -/
  | innerDirectories
  /-- One of several sequences. -/
  | choice (branches : List (List Token))
deriving Repr

/-- A glob as the sequence of its parts. -/
abbrev Glob :=
  List Token

/-! ## Parts that take nothing -/

mutual

/-- Whether a part is a choice between sequences that hold nothing. -/
def Token.isBlank : Token → Bool
  | .choice branches => allBlank branches
  | _ => false

/-- Whether every part of a sequence is blank. -/
def sequenceBlank : List Token → Bool
  | [] => true
  | token :: others => token.isBlank && sequenceBlank others

def allBlank : List (List Token) → Bool
  | [] => true
  | branch :: others => sequenceBlank branch && allBlank others

end

/-! ## Matching -/

/-- What remains of a text after a prefix. -/
def afterText (taken : Bytes) (text : Bytes) : List Bytes :=
  match taken, text with
  | [], rest => [rest]
  | _ :: _, [] => []
  | wanted :: later, byte :: rest => if wanted = byte then afterText later rest else []

def afterOne (passes : UInt8 → Bool) : Bytes → List Bytes
  | [] => []
  | byte :: rest => if passes byte then [rest] else []

mutual

/-- All that can remain of a text once a part has taken its share from the front. -/
def Token.remainders (token : Token) (text : Bytes) : List Bytes :=
  match token with
  | .literal character => afterText (String.utf8EncodeChar character) text
  | .anyByte => afterOne (fun byte => byte ≠ Bytes.slash) text
  | .anyRun => Bytes.afterRun (fun byte => byte ≠ Bytes.slash) text
  | .oneOf negated ranges =>
      afterOne (fun byte => (ranges.any fun (low, high) => low ≤ byte && byte ≤ high) != negated)
        text
  | .leadingDirectories => text :: Bytes.afterSlashes text
  | .trailingPath =>
      (afterOne (fun byte => byte = Bytes.slash) text).flatMap (Bytes.afterRun fun _ => true)
  | .innerDirectories =>
      (afterOne (fun byte => byte = Bytes.slash) text).flatMap fun rest =>
        rest :: Bytes.afterSlashes rest
  | .choice branches =>
      if allBlank branches then [text] else branchRemainders branches text

/-- All that can remain of some texts once a sequence of parts has taken its share. -/
def sequenceRemainders : List Token → List Bytes → List Bytes
  | [], texts => texts
  | token :: others, texts =>
      sequenceRemainders others (texts.flatMap fun text => token.remainders text).eraseDups

/-- What can remain after one of several sequences; a blank sequence is not offered beside
others. -/
def branchRemainders : List (List Token) → Bytes → List Bytes
  | [], _ => []
  | branch :: others, text =>
      (if sequenceBlank branch then [] else sequenceRemainders branch [text]) ++
        branchRemainders others text

end

/-- Whether a glob matches a path. A glob that is nothing but leading directories matches every
path. -/
def Glob.covers (glob : Glob) (path : Bytes) : Bool :=
  match glob with
  | [.leadingDirectories] => true
  | _ => (sequenceRemainders glob [path]).any List.isEmpty

end LibraryScout.Ignore
