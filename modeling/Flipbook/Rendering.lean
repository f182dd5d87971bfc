import Flipbook.Script.Document
import Flipbook.Stage.Director

/-!
# Rendering scripts

A script is rendered into a workspace: its frames and its animation become files, and pictures that
it shows become windows.
-/

namespace Flipbook

/-- How a script is to be rendered; what is left open is taken from the settings. -/
structure RenderOptions where
  outputDir? : Option String := none
  ext? : Option String := none
  size? : Option Int := none
  steps? : Option Int := none

/-- What has been rendered. -/
structure RenderSummary where
  config : AnimationConfig
  /-- The names of the frames that were saved. -/
  frameFiles : List String

namespace RenderOptions

variable (options : RenderOptions) (settings : Settings)

/-- The directory of frames and animations. -/
def outputDir : PathName := .ofString (options.outputDir?.getD settings.outputDir)

/-- The extension of frames. -/
def ext : String := FrameName.extension (options.ext?.getD "") settings.imageExt

/-- The director of a script. -/
def director {σ : Type} (script : Script) (scene : Scene Float) (rasterizer : Rasterizer Float)
    (exporter : Exporter σ) (watches : Event Float → Bool) (world : σ) : Director Float σ where
  operations := script.operations
  symbols := script.symbols
  interpreter := {
    rasterizer
    exporter
    scene
    steps := options.steps?.getD settings.steps
    watches }
  settings := settings
  outputDir := options.outputDir settings
  ext := options.ext settings
  size := options.size?.getD settings.imageSize
  world := world

/-- Renders a script into files and windows. -/
def render (writes : PathName → Bool) (script : Script) (scene : Scene Float) (w : Workspace) :
    Outcome (Director Float Workspace) :=
  let exporter :=
    Exporter.workspace writes (some (options.outputDir settings)) settings.imageExt
      settings.animationDelay
  (options.director settings script scene .wireframe exporter Event.isMessage w).run

end RenderOptions

namespace RenderSummary

/-- The summary of a director that has carried out its script. -/
def ofDirector? {α σ : Type} (d : Director α σ) : Option RenderSummary :=
  d.config?.map fun config => ⟨config, d.framePaths config⟩

end RenderSummary

end Flipbook
