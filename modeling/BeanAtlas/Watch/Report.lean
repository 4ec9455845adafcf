import BeanAtlas.FilePath
import BeanAtlas.Json.Printer

/-!
The line that is printed when a file was analyzed anew or deleted.
-/
namespace BeanAtlas.Watch

structure Report where
  event : String
  file : String
  beans : Option Nat := none
  injections : Option Nat := none
  deriving DecidableEq, Repr

namespace Report

def updated (path root : FilePath) (beans injections : Option Nat) : Report :=
  { event := "updated", file := path.shownFrom root, beans, injections }

def deleted (path root : FilePath) : Report :=
  { event := "deleted", file := path.shownFrom root }

def json (report : Report) : String :=
  Json.compact <| .obj <|
    [("event", .str report.event), ("file", .str report.file)] ++
    Json.optional "beans" (report.beans.map .nat) ++
    Json.optional "injections" (report.injections.map .nat)

/-- The report in words; only one with both counts speaks of an update. -/
def text (report : Report) : String :=
  match report.beans, report.injections with
  | some beans, some injections =>
    "Updated: " ++ report.file ++ " (" ++ toString beans ++ " beans, " ++ toString injections ++
      " injections)"
  | _, _ => "Deleted: " ++ report.file

end Report
end BeanAtlas.Watch
