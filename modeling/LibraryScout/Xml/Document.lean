import LibraryScout.Xml.Lexical
import LibraryScout.Xml.Node

/-!
Contract: reading XML documents.

Owns:
- tags with their attributes, comments, instructions, character data, and the tree they make;
- the rules on names: an attribute is given once, a qualifier is bound before it is used, and the
  two reserved namespaces are bound to nothing else.

A document type declaration is refused, so no entity can be declared. Character data around a
`CDATA` section is one text. A document that is not well formed has no tree.
-/

namespace LibraryScout.Xml

/-- The namespace that the qualifier `xml` always stands for. -/
def xmlNamespace : String :=
  "http://www.w3.org/XML/1998/namespace"

/-- The namespace of namespace declarations. -/
def declarationNamespace : String :=
  "http://www.w3.org/2000/xmlns/"

/-- Qualifiers in scope with their namespaces; the empty qualifier has the default one. -/
abbrev Scope :=
  List (String × String)

structure Attribute where
  name : QName
  value : String
deriving DecidableEq, Repr

/-- What ends a start tag. -/
inductive TagEnd where
  | opened
  | closed
deriving DecidableEq, Repr

/-! ## Attributes -/

/-- The value of an attribute, with references replaced and white space made plain. -/
def attributeValue? (text : List Char) : Option (List Char) :=
  match text with
  | [] => some []
  | '&' :: rest =>
      match reference? rest with
      | none => none
      | some (character, after) =>
          if after.length < rest.length then
            (attributeValue? after).map (character :: ·)
          else
            none
  | '\r' :: '\n' :: rest => (attributeValue? rest).map (' ' :: ·)
  | character :: rest =>
      (attributeValue? rest).map ((if isSpace character then ' ' else character) :: ·)
termination_by text.length
decreasing_by
  all_goals simp only [List.length_cons]; omega

/-- The text of a value between quotes: no less-than sign, allowed characters only. -/
def quotedValue? (text : List Char) : Option (List Char × List Char) :=
  match text with
  | [] => none
  | quote :: rest =>
      if quote = '"' || quote = '\'' then
        let isInside (character : Char) : Bool := character ≠ quote && character ≠ '<'
        match rest.dropWhile isInside with
        | closing :: after =>
            let content := rest.takeWhile isInside
            if closing = quote && content.all isAllowed then some (content, after) else none
        | [] => none
      else
        none

/-- An attribute at the start of a text: a name, an equals sign and a quoted value. -/
def attribute? (text : List Char) : Option (QName × List Char × List Char) := do
  let (name, afterName) ← qualifiedName? text
  match skipSpace afterName with
  | '=' :: rest =>
      let (value, after) ← quotedValue? (skipSpace rest)
      some (name, value, after)
  | _ => none

/-- The attributes of a start tag and what ends it. -/
def attributes? : (steps : Nat) → List Char → Option (List Attribute × TagEnd × List Char)
  | 0, _ => none
  | steps + 1, text =>
      match skipSpace text with
      | '>' :: rest => some ([], .opened, rest)
      | '/' :: rest =>
          match rest with
          | '>' :: after => some ([], .closed, after)
          | _ => none
      | start =>
          if start.length < text.length then
            match attribute? start with
            | none => none
            | some (name, raw, rest) =>
                match attributeValue? raw, attributes? steps rest with
                | some value, some (others, ending, after) =>
                    some (⟨name, String.ofList value⟩ :: others, ending, after)
                | _, _ => none
          else
            none

/-! ## Namespaces -/

/-- The attribute binds a namespace. -/
def Attribute.declares (given : Attribute) : Bool :=
  given.name.qualifier == "xmlns" || given.name.name == "xmlns"

/-- The bindings that the attributes of one tag declare, in order. -/
def declared? (bindings : Scope) : List Attribute → Option Scope
  | [] => some bindings
  | ⟨⟨qualifier, name⟩, value⟩ :: others =>
      if qualifier = "xmlns" then
        if value = declarationNamespace || (name = "xml" && value ≠ xmlNamespace) ||
            (name ≠ "xml" && value = xmlNamespace) || bindings.any (·.1 == name) then
          none
        else if value = xmlNamespace then
          declared? bindings others
        else
          declared? (bindings ++ [(name, value)]) others
      else if name = "xmlns" then
        if value = xmlNamespace || value = declarationNamespace then none
        else declared? (bindings ++ [("", value)]) others
      else
        declared? bindings others

/-- The namespace of an attribute, if its qualifier is bound; without a qualifier it has none. -/
def attributeNamespace? (scope : Scope) (qualifier : String) : Option (Option String) :=
  if qualifier = "xml" then some (some xmlNamespace)
  else if qualifier = "" then some none
  else (scope.lookup qualifier).map some

/-- All qualifiers of the attributes are bound, and no attribute is given twice. -/
def distinct (scope : Scope) (seen : List (Option String × String)) : List Attribute → Bool
  | [] => true
  | given :: others =>
      if given.declares then
        distinct scope seen others
      else
        match attributeNamespace? scope given.name.qualifier with
        | none => false
        | some space =>
            let key := (space, given.name.name)
            !seen.contains key && distinct scope (key :: seen) others

/-- The scope inside a tag, if its names obey the rules. -/
def scopeOf? (outer : Scope) (name : QName) (attributes : List Attribute) : Option Scope :=
  match declared? [] attributes with
  | none => none
  | some bindings =>
      let scope := bindings ++ outer
      let bound := name.qualifier = "" || (scope.lookup name.qualifier).isSome
      if bound && distinct scope [] attributes then some scope else none

/-! ## Content -/

/-- Character data with references replaced and line ends made line feeds. `done` holds the result
in reverse; after a reference the next character stands as it is. -/
def characterData? (done : List Char) (asIs : Bool) (text : List Char) : Option (List Char) :=
  match text with
  | [] => some done.reverse
  | '&' :: rest =>
      match reference? rest with
      | none => none
      | some (character, after) =>
          if after.length < rest.length then
            characterData? (character :: done) true after
          else
            none
  | character :: rest =>
      if asIs then
        characterData? (character :: done) false rest
      else
        let last := if rest.isEmpty && character = '\r' then '\n' else character
        match done with
        | '\r' :: before =>
            if character = '\n' then characterData? ('\n' :: before) false rest
            else characterData? (last :: '\n' :: before) false rest
        | _ => characterData? (last :: done) false rest
termination_by text.length
decreasing_by
  all_goals simp only [List.length_cons]; omega

/-- The text of a `CDATA` section, line ends made line feeds. -/
def plainLines : List Char → List Char
  | [] => []
  | '\r' :: '\n' :: rest => '\n' :: plainLines rest
  | '\r' :: rest => '\n' :: plainLines rest
  | character :: rest => character :: plainLines rest

/-- The mark that ends a section may not stand in character data. -/
def holdsSectionEnd : List Char → Bool
  | [] => false
  | character :: rest =>
      (Text.after? "]]>".toList (character :: rest)).isSome || holdsSectionEnd rest

/-- Two hyphens, or one at the end, may not stand in a comment. -/
def isCommentText : List Char → Bool
  | [] => true
  | ['-'] => false
  | '-' :: '-' :: _ => false
  | _ :: rest => isCommentText rest

/-- A comment after its opening mark. -/
def comment? (text : List Char) : Option (Node × List Char) :=
  match upToMark? "-->".toList text with
  | some (content, rest) =>
      if isCommentText content then some (.comment (String.ofList content), rest) else none
  | none => none

/-- An instruction after its opening mark; a declaration is none. -/
def instruction? (text : List Char) : Option (Node × List Char) :=
  if (Text.after? "xml ".toList text).isSome then
    none
  else
    match name? text with
    | none => none
    | some (target, afterTarget) =>
        (upToMark? "?>".toList (skipSpace afterTarget)).map fun (_, rest) =>
          (.instruction (String.ofList target), rest)

/-- The element that a start tag begins, with its children. -/
def elementOf (scope : Scope) (name : QName) (children : List Node) : Node :=
  .element (scope.lookup name.qualifier) name.name children

/-- A start tag after its less-than sign: its name, the scope inside it and what ends it. -/
def startTag? (outer : Scope) (text : List Char) :
    Option (QName × Scope × TagEnd × List Char) := do
  let (name, afterName) ← qualifiedName? text
  let (attributes, ending, rest) ← attributes? (afterName.length + 1) afterName
  if name.qualifier = "xmlns" then none
  else
    let scope ← scopeOf? outer name attributes
    some (name, scope, ending, rest)

/-- An element whose end tag has not been read. Its children are held in reverse. -/
structure OpenElement where
  name : QName
  scope : Scope
  children : List Node

namespace OpenElement

def add (element : OpenElement) (node : Node) : OpenElement :=
  { element with children := node :: element.children }

/-- Adds a text, as part of a text right before it. -/
def addText (element : OpenElement) (content : List Char) : OpenElement :=
  match element.children with
  | .text before :: others =>
      { element with children := .text (before ++ String.ofList content) :: others }
  | children => { element with children := .text (String.ofList content) :: children }

/-- The element once its end tag is read. -/
def close (element : OpenElement) : Node :=
  elementOf element.scope element.name element.children.reverse

end OpenElement

/-- Reads the content of an open element and of the elements around it, up to the end tag of the
outermost one. -/
def content? (current : OpenElement) (outer : List OpenElement) :
    (steps : Nat) → List Char → Option (Node × List Char)
  | 0, _ => none
  | steps + 1, text =>
      match text with
      | [] => none
      | '<' :: '!' :: '-' :: '-' :: rest =>
          match comment? rest with
          | none => none
          | some (node, after) => content? (current.add node) outer steps after
      | '<' :: '!' :: rest =>
          match Text.after? "[CDATA[".toList rest with
          | none => none
          | some start =>
              match upToMark? "]]>".toList start with
              | none => none
              | some (content, after) =>
                  content? (current.addText (plainLines content)) outer steps after
      | '<' :: '?' :: rest =>
          match instruction? rest with
          | none => none
          | some (node, after) => content? (current.add node) outer steps after
      | '<' :: '/' :: rest =>
          match qualifiedName? rest with
          | none => none
          | some (name, afterName) =>
              match skipSpace afterName with
              | '>' :: after =>
                  if name = current.name then
                    match outer with
                    | [] => some (current.close, after)
                    | parent :: others => content? (parent.add current.close) others steps after
                  else
                    none
              | _ => none
      | '<' :: rest =>
          match startTag? current.scope rest with
          | none => none
          | some (name, scope, .closed, after) =>
              content? (current.add (elementOf scope name [])) outer steps after
          | some (name, scope, .opened, after) =>
              content? ⟨name, scope, []⟩ (current :: outer) steps after
      | _ =>
          let isData (character : Char) : Bool := character ≠ '<'
          let data := text.takeWhile isData
          if data.all isAllowed && !holdsSectionEnd data then
            match characterData? [] false data with
            | none => none
            | some content =>
                content? (current.addText content) outer steps (text.dropWhile isData)
          else
            none

/-! ## Documents -/

/-- An attribute of a declaration, with the white space after it. -/
def declarationPart? (text : List Char) : Option (List Char) :=
  match attribute? text with
  | none => none
  | some (_, _, rest) =>
      match rest with
      | [] => some []
      | '?' :: '>' :: _ => some rest
      | character :: _ => if isSpace character then some (skipSpace rest) else none

/-- What follows the declaration that a document may start with. The declaration names a version
and then, in this order, may name an encoding and whether the document stands alone. -/
def afterDeclaration? (text : List Char) : Option (List Char) := do
  match Text.after? "<?xml ".toList text with
  | none => some text
  | some start =>
      let version := skipSpace start
      let _ ← Text.after? "version".toList version
      let afterVersion ← declarationPart? version
      let afterEncoding ←
        if (Text.after? "encoding".toList afterVersion).isSome then declarationPart? afterVersion
        else some afterVersion
      let afterAll ←
        if (Text.after? "standalone".toList afterEncoding).isSome then
          (attribute? afterEncoding).map fun (_, _, rest) => rest
        else
          some afterEncoding
      Text.after? "?>".toList (skipSpace afterAll)

/-- Skips white space, comments and instructions around the root element. -/
def skipAround? : (steps : Nat) → List Char → Option (List Char)
  | 0, _ => none
  | steps + 1, text =>
      match skipSpace text with
      | '<' :: '!' :: '-' :: '-' :: rest =>
          match comment? rest with
          | none => none
          | some (_, after) => skipAround? steps after
      | '<' :: '?' :: rest =>
          match instruction? rest with
          | none => none
          | some (_, after) => skipAround? steps after
      | rest => some rest

/-- The root element of a well-formed document. -/
def root? (text : String) : Option Node := do
  let characters :=
    match text.toList with
    | '\ufeff' :: rest => rest
    | characters => characters
  let steps := characters.length + 1
  let prolog ← afterDeclaration? characters
  let start ← skipAround? steps prolog
  match start with
  | '<' :: rest =>
      let (name, scope, ending, after) ← startTag? [] rest
      let (node, remaining) ←
        match ending with
        | .closed => some (elementOf scope name [], after)
        | .opened => content? ⟨name, scope, []⟩ [] steps after
      match ← skipAround? steps remaining with
      | [] => some node
      | _ => none
  | _ => none

end LibraryScout.Xml
