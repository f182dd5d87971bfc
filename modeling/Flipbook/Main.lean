import Flipbook.Output.FileBytes
import Flipbook.Program
import Flipbook.Project
import Flipbook.Yaml.NodeValue

/-!
# The program in its surroundings

Collects what a run depends on, the environment, the script and the configuration of the project,
carries the run out, and writes down what it leaves behind.
-/

namespace Flipbook

namespace Main

/-- The variables of the environment that settings are made of. -/
def environment : IO Environment := do
  let values ← Settings.variableNames.mapM fun name => do return (name, ← IO.getEnv name)
  return fun name => (values.lookup name).join

/-- Adds a file of the disk to a tree, if it is there. -/
def addFile (tree : FileTree) (name : PathName) : IO FileTree := do
  try
    let data ← IO.FS.readBinFile name.text
    match (do (← tree.ensureDirectory name.parent).write name (.bytes data)) with
    | Except.ok tree => return tree
    | .error _ => return tree
  catch _ => return tree

/-- Adds to a tree what marks the roots of projects at a place and around it. -/
def addMarks (tree : FileTree) (place : Place) : IO FileTree := do
  let here ← IO.currentDir
  let mut tree := tree
  for n in List.range (place.length + 1) do
    for mark in Project.rootMarks do
      let name : PathName := ⟨"/", place.take n ++ [mark]⟩
      if ← (here / name.text).pathExists then
        tree := (tree.ensureDirectory name).toOption.getD tree
  return tree

/-- The configuration of the project that the working directory lies in. -/
def configuration (current : Place) : IO (Except Fault Value) := do
  let tree ← addMarks (.empty current) current
  let root : PathName := ⟨"/", Project.findRoot tree ⟨"/", current⟩⟩
  let tree ← Project.configFiles.foldlM (fun tree name => addFile tree (root / name)) tree
  return (Project.loadConfig Yaml.reader tree root).map .map

/-- Writes a file, in a directory that is made as needed; says whether its format is encoded. -/
def writeFile (place : Place) (content : FileContent) : IO Bool := do
  let name : PathName := ⟨"/", place⟩
  match content.encode? name with
  | some data =>
    IO.FS.createDirAll name.parent.text
    IO.FS.writeBinFile name.text data
    return true
  | none => return false

/-- Says how a run ended, and gives its code. -/
def conclude (ending : Program.Ending) : IO UInt32 := do
  match ending with
  | .exit code => return UInt32.ofNat code
  | .help =>
    IO.println CommandLine.help
    return 0
  | .refused message =>
    IO.eprintln CommandLine.usage
    IO.eprintln (CommandLine.refusal message)
    return UInt32.ofNat Program.refusalCode
  | .fault f =>
    IO.eprintln (CommandLine.refusal (f.message?.getD "the script is not rendered"))
    return UInt32.ofNat Program.failureCode

/-- Writes down what a run leaves behind. -/
def deliver (before : FileTree) (result : Program.Result) : IO UInt32 := do
  IO.print result.output
  for line in result.messages do
    IO.eprintln line.render
  let mut complete := true
  for (place, content) in before.filesSince result.workspace.files do
    if !(← writeFile place content) then
      IO.eprintln (CommandLine.refusal ("no encoder for " ++ (PathName.mk "/" place).text))
      complete := false
  for window in result.workspace.windows do
    IO.eprintln ("[" ++ window.caption ++ "] a picture of " ++ window.picture.width.repr ++ " x "
      ++ window.picture.height.repr)
  let code ← conclude result.ending
  return if complete then code else UInt32.ofNat Program.failureCode

/-- A run with the words of its command line. -/
def run (arguments : List String) : IO UInt32 := do
  let current := (PathName.ofString (← IO.currentDir).toString).parts
  let settings := Settings.ofEnvironment (← environment)
  let run := Program.run Yaml.reader PictureFile.hasFormat settings
  let tree : FileTree := .empty current
  match CommandLine.parse arguments with
  | .render a =>
    let tree ← addFile tree (.ofString a.script)
    match ← configuration current with
    | .ok config => deliver tree (run config arguments ⟨tree, #[]⟩)
    | .error f => conclude (.fault f)
  | _ => deliver tree (run .null arguments ⟨tree, #[]⟩)

end Main

end Flipbook

/-- Runs the program. -/
def main (arguments : List String) : IO UInt32 :=
  Flipbook.Main.run arguments
