import LibraryScout.Imports.Java
import LibraryScout.Imports.JavaScript
import LibraryScout.Imports.Python
import LibraryScout.Manifest.Package
import LibraryScout.Manifest.Pom
import LibraryScout.Manifest.Requirements
import LibraryScout.Source.Extractor

/-!
Contract: the extractor of every supported kind, and the registry that holds them all.
-/

namespace LibraryScout.Source

namespace Extractor

def java : Extractor :=
  ⟨.java, .java, Imports.Java.extract⟩

def javaScript : Extractor :=
  ⟨.javaScript, .js, fun text => (Imports.JavaScript.extract text, [])⟩

def python : Extractor :=
  ⟨.python, .python, fun text => (Imports.Python.extract text, [])⟩

def pomXml : Extractor :=
  ⟨.pomXml, .java, Manifest.Pom.extract⟩

def packageJson : Extractor :=
  ⟨.packageJson, .js, Manifest.Package.extract⟩

def requirementsTxt : Extractor :=
  ⟨.requirementsTxt, .python, fun text => (Manifest.Requirements.extract text, [])⟩

/-- Every extractor there is, one for each supported kind. -/
def all : List Extractor :=
  [java, javaScript, python, pomXml, packageJson, requirementsTxt]

end Extractor

/-- The registry with the extractor of every supported kind. -/
def Registry.defaults : Registry :=
  Extractor.all.foldl Registry.register .empty

end LibraryScout.Source
