/-!
# Path names

The name of a file as a sequence of parts.  Empty parts and single dots are left out; two dots are
kept, for what they lead to depends on the files that are there.
-/

namespace Flipbook

/-- A path name: what stands before the first part, and the parts. -/
structure PathName where
  /-- Empty for a name that is relative, one slash or two for one that is not. -/
  root : String
  parts : List String
  deriving DecidableEq, Repr

namespace PathName

/-- The root of a text: two slashes are different from one, more are not. -/
def rootOf : List Char → String
  | ['/', '/'] => "//"
  | '/' :: '/' :: '/' :: _ => "/"
  | '/' :: '/' :: _ => "//"
  | '/' :: _ => "/"
  | _ => ""

/-- The pieces of a text between slashes. -/
def pieces (cs : List Char) : List (List Char) :=
  match cs with
  | [] => [[]]
  | '/' :: rest => [] :: pieces rest
  | c :: rest => match pieces rest with
    | [] => [[c]]
    | p :: ps => (c :: p) :: ps

/-- The path name of a text. -/
def ofString (s : String) : PathName :=
  let parts := (pieces s.toList).filter fun p => p != [] && p != ['.']
  ⟨rootOf s.toList, parts.map String.ofList⟩

/-- The text of a path name; the name without parts is a dot. -/
def text (p : PathName) : String :=
  match p.root, p.parts with
  | "", [] => "."
  | root, parts => root ++ "/".intercalate parts

/-- The name does not depend on a working directory. -/
def isAbsolute (p : PathName) : Bool := p.root != ""

/-- A name seen from the directory `p`. -/
def join (p q : PathName) : PathName :=
  if q.isAbsolute then q else ⟨p.root, p.parts ++ q.parts⟩

instance : HDiv PathName String PathName := ⟨fun p s => p.join (ofString s)⟩

/-- The last part. -/
def name (p : PathName) : String := p.parts.getLast?.getD ""

/-- The directory that the name lies in. -/
def parent (p : PathName) : PathName := { p with parts := p.parts.dropLast }

/-- The last dot of a name and what follows it, unless the dot is the first or the last
character. -/
def suffixOf (name : String) : String :=
  let after := name.toList.reverse.takeWhile (· != '.')
  let before := name.toList.reverse.drop (after.length + 1)
  if after.isEmpty || before.isEmpty || after.length == name.length then ""
  else String.ofList ('.' :: after.reverse)

/-- The extension of the last part, with its dot. -/
def suffix (p : PathName) : String := suffixOf p.name

/-- The name with an extension added to the last part, unless there is no last part or the
extension is none. -/
def addExtension? (p : PathName) (ext : String) : Option PathName :=
  if p.name = "" ∨ ext = "" ∨ ext.toList.contains '/' then none
  else some { p with parts := p.parts.dropLast ++ [p.name ++ "." ++ ext] }

end PathName

end Flipbook
