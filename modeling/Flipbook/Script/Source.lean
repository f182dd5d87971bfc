import Flipbook.Output.FileTree
import Flipbook.Script.Document
import Flipbook.Yaml.Reader

/-!
# Scripts from files

A script is kept in a file as a YAML document.
-/

namespace Flipbook

namespace Script

variable (yaml : Yaml.Reader Value)

/-- Reads the document in a file. -/
def readDocument (t : FileTree) (path : PathName) : Except Fault Value :=
  match t.read path with
  | .error _ => .error (.script (.unreadable path.text))
  | .ok content => match yaml.read content with
    | .ok doc => .ok doc
    | .error .malformed => .error (.script (.malformed path.text))
    | .error .undecodable => .error (.file .undecodable)
    | .error (.scalar f) => .error (.scalar f)

/-- Reads the script in a file; its symbols are added to those that are there already. -/
def load (t : FileTree) (path : PathName) (symbols : SymbolTable Float := .empty) :
    Except Fault Script := do
  ofDocument (← readDocument yaml t path) symbols

end Script

end Flipbook
