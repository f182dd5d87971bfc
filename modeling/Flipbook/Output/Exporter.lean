import Flipbook.Log
import Flipbook.Output.AnimationFile
import Flipbook.Output.PictureFile

/-!
# Exporters

What takes the pictures of a run.  The exporter of a workspace saves them as files and shows them
in windows; the silent one does nothing.
-/

namespace Flipbook

/-- What an exporter leaves behind: its world, and what it tells. -/
structure Report (σ : Type) where
  world : σ
  notices : List Notice := []
  fault? : Option Fault := none

/-- What takes pictures. -/
structure Exporter (σ : Type) where
  /-- Saves a picture under a name, which may be given as any value. -/
  save : Picture → Value → σ → Report σ
  /-- Shows a picture. -/
  display : Picture → σ → Report σ
  /-- Puts saved frames together. -/
  assemble : String → List String → σ → Report σ

/-- A window that a picture was shown in. -/
structure Window where
  caption : String
  picture : Picture
  deriving DecidableEq, Repr

namespace Window

/-- The caption of windows. -/
def defaultCaption : String := "mdlanim"

/-- The bytes of a row, negative because the rows run from the top. -/
def pitch (w : Window) : Int := -(w.picture.width * 3 : Nat)

end Window

/-- Files, and the windows that were opened. -/
structure Workspace where
  files : FileTree
  windows : Array Window := #[]

namespace Exporter

/-- Takes pictures and does nothing with them. -/
def silent {σ : Type} : Exporter σ where
  save _ _ w := { world := w }
  display _ w := { world := w }
  assemble _ _ w := { world := w }

/-- Saves pictures as files and shows them in windows.  No file name is made of a value that is no
text. -/
def workspace (writes : PathName → Bool) (directory : Option PathName) (defaultExt : String)
    (delay : Int) : Exporter Workspace where
  save picture filename w :=
    match filename with
    | .str filename => match PictureFile.save writes w.files picture filename defaultExt with
      | (files, .ok p) => { world := { w with files }, notices := [.savedImage p.text] }
      | (files, .error f) => { world := { w with files }, fault? := some (.file f) }
    | _ => { world := w, fault? := some (.conversion .wrongKind) }
  display picture w :=
    { world := { w with windows := w.windows.push ⟨Window.defaultCaption, picture⟩ } }
  assemble basename frames w :=
    match AnimationFile.assemble w.files basename (frames.map .ofString) directory delay with
    | .ok (files, p) =>
      { world := { w with files }, notices := [.animation p.text frames.length] }
    | .error f => { world := w, fault? := some (.file f) }

end Exporter

end Flipbook
