/-!
Contract: the languages whose library registries are known.

A language names the registry under which a context is looked up. Its short name is used in
requests, in reports and on the command line.
-/

namespace LibraryScout.Source

inductive Language where
  | java
  | js
  | python
deriving DecidableEq, Repr

namespace Language

/-- The short name of a language. -/
def name : Language → String
  | java => "java"
  | js => "js"
  | python => "python"

/-- Every language, in the order in which choices are listed. -/
def all : List Language :=
  [java, js, python]

/-- The language with a given short name. -/
def ofName? (text : String) : Option Language :=
  all.find? fun language => language.name == text

theorem ofName?_name (language : Language) : ofName? language.name = some language := by
  cases language <;> decide

end Language

end LibraryScout.Source
