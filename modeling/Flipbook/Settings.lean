import Flipbook.Text.Case
import Flipbook.Text.Numeral

/-!
# Settings

What a user sets through variables of the environment.  A variable that is unset, blank or no
number leaves the default, and numbers are raised to the least value that makes sense.
-/

namespace Flipbook

/-- The variables of an environment. -/
abbrev Environment := String → Option String

namespace Environment

/-- A whole number, raised to `least` where that is given. -/
def int (env : Environment) (name : String) (fallback : Option Int) (least : Option Int := none) :
    Option Int :=
  match env name with
  | none => fallback
  | some text => match Text.integer? text with
    | none => fallback
    | some n => match least with
      | some m => some (max n m)
      | none => some n

/-- A text without the blanks around it. -/
def str (env : Environment) (name fallback : String) : String :=
  match env name with
  | none => fallback
  | some text => if Text.trim text = "" then fallback else Text.trim text

end Environment

/-- The settings of a run. -/
structure Settings where
  /-- The directory of frames and animations. -/
  outputDir : String
  /-- The extension of pictures, without a dot before it. -/
  imageExt : String
  /-- The name of animations that have none. -/
  defaultBasename : String
  /-- How long a frame is shown, in milliseconds. -/
  animationDelay : Int
  /-- The width and height of pictures. -/
  imageSize : Int
  /-- The steps that curved surfaces are divided into. -/
  steps : Int
  /-- Every how many frames progress is told. -/
  progressEvery : Int
  /-- The level of messages, in upper case. -/
  logLevel : String
  deriving DecidableEq, Repr

namespace Settings

/-- The variables that settings are made of. -/
def variableNames : List String :=
  ["MDL_OUTPUT_DIR", "MDL_IMAGE_EXT", "MDL_DEFAULT_BASENAME", "MDL_ANIMATION_DELAY_MS",
    "MDL_IMAGE_SIZE", "MDL_STEP_3D", "MDL_PROGRESS_EVERY", "MDL_LOG_LEVEL"]

/-- A number of at least `least`, where zero means the default. -/
def number (env : Environment) (name : String) (fallback least : Int) : Int :=
  match env.int name (some fallback) (some least) with
  | none | some 0 => fallback
  | some n => n

/-- The settings that an environment makes. -/
def ofEnvironment (env : Environment) : Settings where
  outputDir := env.str "MDL_OUTPUT_DIR" "anim"
  imageExt := Text.dropLeading '.' (env.str "MDL_IMAGE_EXT" "png")
  defaultBasename := env.str "MDL_DEFAULT_BASENAME" "image"
  animationDelay := number env "MDL_ANIMATION_DELAY_MS" 40 1
  imageSize := number env "MDL_IMAGE_SIZE" 500 1
  steps := number env "MDL_STEP_3D" 100 3
  progressEvery := number env "MDL_PROGRESS_EVERY" 5 1
  logLevel := Text.upper (env.str "MDL_LOG_LEVEL" "INFO")

end Settings

end Flipbook
