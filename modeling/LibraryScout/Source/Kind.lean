import LibraryScout.Source.Language
import LibraryScout.Text.Lines
import LibraryScout.Text.Lowercase

/-!
Contract: the kinds of input, recognised by the last suffix of a file name.

Owns:
- the kinds, their names and the suffix of each supported kind;
- `classify`, which looks at nothing but the suffix from the last point on, in lower case.

Does not own: what is read out of an input of a kind.
-/

namespace LibraryScout.Source

/-- The kinds of input. -/
inductive Kind where
  | java
  | javaScript
  | python
  | pomXml
  | packageJson
  | requirementsTxt
  | unsupported
deriving DecidableEq, Repr

namespace Kind

/-- Every kind, the unsupported one last. -/
def all : List Kind :=
  [java, javaScript, python, pomXml, packageJson, requirementsTxt, unsupported]

/-- The name of a kind in data. -/
def name : Kind → String
  | java => "java"
  | javaScript => "java_script"
  | python => "python"
  | pomXml => "pom_xml"
  | packageJson => "package_json"
  | requirementsTxt => "requirements_txt"
  | unsupported => "unsupported"

/-- The kind with a given name in data. -/
def ofName? (text : String) : Option Kind :=
  all.find? fun kind => kind.name == text

/-- The name of a kind for readers. -/
def title : Kind → String
  | java => "Java source"
  | javaScript => "JavaScript source"
  | python => "Python source"
  | pomXml => "Maven POM"
  | packageJson => "package manifest"
  | requirementsTxt => "requirements listing"
  | unsupported => "unsupported"

/-- The suffix of a supported kind, its point included. -/
def suffix? : Kind → Option String
  | java => some ".java"
  | javaScript => some ".js"
  | python => some ".py"
  | pomXml => some ".xml"
  | packageJson => some ".json"
  | requirementsTxt => some ".txt"
  | unsupported => none

/-- The suffixes of all supported kinds. -/
def suffixes : List String :=
  all.filterMap suffix?

/-- The language under which the identifiers of a kind are looked up. -/
def language? : Kind → Option Language
  | java | pomXml => some .java
  | javaScript | packageJson => some .js
  | python | requirementsTxt => some .python
  | unsupported => none

/-- Identifiers of Java sources are package paths that still have to be mapped to modules. -/
def needsResolution : Kind → Bool
  | java => true
  | _ => false

def isSupported : Kind → Bool
  | unsupported => false
  | _ => true

/-- The kind with a given suffix, upper case counting as lower case. -/
def ofSuffix (suffix : String) : Kind :=
  match all.find? fun kind => kind.suffix? == some (Text.lowercased suffix) with
  | some kind => kind
  | none => unsupported

theorem ofName?_name (kind : Kind) : ofName? kind.name = some kind := by
  cases kind <;> decide

theorem needsResolution_iff (kind : Kind) : kind.needsResolution = true ↔ kind = java := by
  cases kind <;> simp [needsResolution]

end Kind

/-- The suffix of a file name from its last point on, in lower case. -/
def fileSuffix? (fileName : String) : Option String :=
  (Text.fromLast? '.' fileName.toList).map fun suffix => String.ofList (Text.lowercase suffix)

/-- The kind of input that a file of this name holds. -/
def classify (fileName : String) : Kind :=
  match fileSuffix? fileName with
  | some suffix => Kind.ofSuffix suffix
  | none => .unsupported

end LibraryScout.Source
