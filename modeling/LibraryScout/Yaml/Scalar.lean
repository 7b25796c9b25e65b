import LibraryScout.Yaml.Plain

/-!
Contract: how a YAML string may be written.

Owns the analysis of a text, which says which styles can hold it, and the choice of a style: plain
if that is read back as the same string, a literal block for texts with line feeds, quotes for
all else. Only double quotes can hold what is not printable.
-/

namespace LibraryScout.Yaml

inductive Style where
  | plain
  | singleQuoted
  | doubleQuoted
  | literal
deriving DecidableEq, Repr

/-- Characters that may stand as they are. -/
def isPrintable (character : Char) : Bool :=
  let code := character.toNat
  code = 0x0A || (0x20 ≤ code && code ≤ 0x7E) || (0xA0 ≤ code && code ≤ 0xD7FF) ||
    (0xE000 ≤ code && code ≤ 0xFFFD && code ≠ 0xFEFF) || 0x10000 ≤ code

/-- Line breaks. -/
def isBreak (character : Char) : Bool :=
  character = '\r' || character = '\n' || character = '\x85' || character = '\u2028' ||
    character = '\u2029'

/-- Space, tab, line break or the end of the text. -/
def isBlankOrEnd : Option Char → Bool
  | none => true
  | some character =>
      character = ' ' || character = '\t' || character = '\x00' || isBreak character

/-- What an analysis has found out about a text. -/
structure Analysis where
  multiline : Bool
  plainAllowed : Bool
  singleQuotedAllowed : Bool
  literalAllowed : Bool
deriving DecidableEq, Repr

namespace Analysis

/-- What the characters seen so far have shown. -/
structure Findings where
  indicators : Bool
  breaks : Bool
  special : Bool
  leadingBlank : Bool
  breakThenSpace : Bool
  spaceThenBreak : Bool
  afterSpace : Bool
  afterBreak : Bool
  afterBlank : Bool
  isFirst : Bool
deriving DecidableEq, Repr

/-- What is known before the first character. -/
def Findings.start (indicators : Bool) : Findings :=
  ⟨indicators, false, false, false, false, false, false, false, true, true⟩

/-- Characters that a plain text does not start with. -/
def startIndicators : List Char :=
  ['#', ',', '[', ']', '\x7b', '\x7d', '&', '*', '!', '|', '>', '\'', '"', '%', '@', '\x60']

/-- Takes one character into account; `next?` is the one after it. -/
def Findings.add (findings : Findings) (character : Char) (next? : Option Char) : Findings :=
  let blankFollows := isBlankOrEnd next?
  let indicator :=
    if findings.isFirst then
      startIndicators.contains character ||
        ((character = '?' || character = ':' || character = '-') && blankFollows)
    else
      (character = ':' && blankFollows) || (character = '#' && findings.afterBlank)
  let space := character = ' '
  let lineBreak := isBreak character
  { indicators := findings.indicators || indicator
    breaks := findings.breaks || lineBreak
    special := findings.special || !isPrintable character
    leadingBlank := findings.leadingBlank || (findings.isFirst && (space || lineBreak))
    breakThenSpace := findings.breakThenSpace || (space && findings.afterBreak)
    spaceThenBreak := findings.spaceThenBreak || (lineBreak && findings.afterSpace)
    afterSpace := space
    afterBreak := lineBreak
    afterBlank := isBlankOrEnd (some character)
    isFirst := false }

/-- Takes the characters of a text into account. -/
def Findings.addAll (findings : Findings) : List Char → Findings
  | [] => findings
  | character :: rest => (findings.add character rest.head?).addAll rest

/-- The marks that separate documents. -/
def startsDocumentMark : List Char → Bool
  | '-' :: '-' :: '-' :: _ => true
  | '.' :: '.' :: '.' :: _ => true
  | _ => false

/-- The analysis of a text. -/
def of (text : List Char) : Analysis :=
  if text.isEmpty then
    ⟨false, true, true, false⟩
  else
    let found := (Findings.start (startsDocumentMark text)).addAll text
    let unquotable := found.spaceThenBreak || found.special
    { multiline := found.breaks
      plainAllowed :=
        !(found.leadingBlank || found.afterSpace || found.afterBreak || found.breakThenSpace ||
          unquotable || found.breaks || found.indicators)
      singleQuotedAllowed := !(found.breakThenSpace || unquotable)
      literalAllowed := !(found.afterSpace || unquotable) }

end Analysis

/-- The style of a string, where `asKey` says that it is a key on the line of its value. -/
def styleOf (text : String) (asKey : Bool) : Style :=
  let analysis := Analysis.of text.toList
  let wanted : Style :=
    if text.toList.contains '\n' then .literal
    else if Plain.isAmbiguous text then .singleQuoted
    else .plain
  let first : Style := if asKey && analysis.multiline then .doubleQuoted else wanted
  let second : Style :=
    if first = .plain && (!analysis.plainAllowed || (text = "" && asKey)) then .singleQuoted
    else first
  match second with
  | .singleQuoted => if analysis.singleQuotedAllowed then .singleQuoted else .doubleQuoted
  | .literal => if analysis.literalAllowed && !asKey then .literal else .doubleQuoted
  | other => other

/-- A key that may stand on the line of its value. -/
def isSimpleKey (text : String) : Bool :=
  !(Analysis.of text.toList).multiline && text.utf8ByteSize ≤ 128

end LibraryScout.Yaml
