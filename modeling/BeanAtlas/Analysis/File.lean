import BeanAtlas.Analysis.Settings
import BeanAtlas.Bean.Discovery
import BeanAtlas.Extract.Class
import BeanAtlas.Injection.Sites
import BeanAtlas.Tree.Document
import BeanAtlas.Tree.Warning

/-!
Everything learned from one file. A document without a tree yields its error and nothing else.
-/
namespace BeanAtlas

structure Extraction where
  classes : List JavaClass := []
  errors : List String := []
  warnings : List SyntaxWarning := []

structure FileAnalysis where
  classes : List JavaClass := []
  beans : List Bean := []
  injections : List Injection := []
  errors : List String := []
  warnings : List SyntaxWarning := []

def FileAnalysis.hasErrors (analysis : FileAnalysis) : Bool := !analysis.errors.isEmpty

namespace Document

def extract (document : Document) (file : FilePath) : Extraction :=
  match document.tree with
  | .error failure => { errors := [failure.message] }
  | .ok root => {
      classes := Extract.unitClasses file document.source root
      warnings := root.warnings document.source }

/-- The order in which the kinds of sites are listed. -/
def siteOrder : List InjectionKind := [.field, .constructor, .setter, .lombokConstructor, .beanMethod]

def analyze (document : Document) (file : FilePath) (settings : DetectorSettings) : FileAnalysis :=
  let extraction := document.extract file
  if extraction.errors.isEmpty then
    let lines := some (Text.lines document.source.text)
    { classes := extraction.classes
      beans := Bean.discover extraction.classes
      injections := (siteOrder.filter settings.enables).flatMap
        fun kind => Injection.sites lines kind extraction.classes
      warnings := extraction.warnings }
  else { errors := extraction.errors, warnings := extraction.warnings }

end Document
end BeanAtlas
