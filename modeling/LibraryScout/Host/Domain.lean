import LibraryScout.Host.Label
import LibraryScout.Host.Punycode
import LibraryScout.Text.Lines

/-!
Contract: host names in ASCII (UTS #46, without its rules for hyphens and lengths).

A name is read character by character and brought into composed form; its labels stand between
dots. A label beyond ASCII is written in Punycode after a prefix, and a label that has the prefix
must be what writing would have made of some label beyond ASCII. ASCII characters that separate the
parts of a URL, white space and controls stand in no name.
-/

namespace LibraryScout.Host.Domain

/-- ASCII characters that no host name holds. -/
def isDenied (character : Char) : Bool :=
  character.toNat ≤ 32 || character.toNat == 127 || "%#/:<>?@[\\]^|".toList.contains character

def asciiPrefix : List Char :=
  "xn--".toList

def isAscii (label : List Char) : Bool :=
  label.all fun character => character.toNat < 128

/-- The longest label that is written in Punycode, and the longest that is read from it. -/
def longestWritten : Nat := 1000
def longestRead : Nat := 2000

/-- A label as it is read. -/
def readLabel? (label : List Char) : Option (List Char) :=
  if asciiPrefix.isPrefixOf label then
    let body := label.drop asciiPrefix.length
    if longestRead < body.length then none
    else
      match Punycode.decode? body with
      | none => none
      | some read =>
          if isAscii read || normalized? read != some read then none
          else if isValidLabel read then some read
          else none
  else if isAscii label then some label
  else if isValidLabel label then some label
  else none

/-- A label in ASCII. -/
def writeLabel? (label : List Char) : Option (List Char) :=
  if isAscii label then some label
  else if longestWritten < label.length then none
  else some (asciiPrefix ++ Punycode.encode label)

/-- The ASCII form of a name, if it has one. -/
def toAscii? (name : List Char) : Option (List Char) := do
  let normalized ← normalized? name
  if normalized.any isDenied then
    none
  else
    let labels ← (Text.cut '.' normalized).mapM readLabel?
    if labels.any (fun label => label.any isDenied) then
      none
    else if labels.any isRightToLeft && !labels.all keepsDirection then
      none
    else
      let written ← labels.mapM writeLabel?
      return ['.'].intercalate written

end LibraryScout.Host.Domain
