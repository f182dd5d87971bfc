import Flipbook.CommandLine
import Flipbook.Script.Source

/-!
# The program

A run of the program reads its command line, loads the script that it names and renders it.  The
faults that a script can have are reported and make the run end with code 1.  What reads the script
and what encodes the pictures is given to the program.
-/

namespace Flipbook

namespace Program

/-- How a run ends. -/
inductive Ending
  /-- With a code. -/
  | exit (code : Nat)
  /-- With an explanation of the command line. -/
  | help
  /-- With a message about the command line. -/
  | refused (message : String)
  /-- With a fault that the program does not report. -/
  | fault (f : Fault)

/-- What a run leaves behind. -/
structure Result where
  workspace : Workspace
  /-- The messages that pass the threshold. -/
  messages : List LogLine
  /-- What is written to the standard output. -/
  output : String
  ending : Ending

/-- The code of a run that goes wrong. -/
def failureCode : Nat := 1

/-- The code of a run with a command line that is refused. -/
def refusalCode : Nat := 2

/-- What a run does after its command line has been read, with all its messages. -/
structure Work where
  workspace : Workspace
  messages : List LogLine := []
  fault? : Option Fault := none
  summary? : Option RenderSummary := none

variable (yaml : Yaml.Reader Value) (writes : PathName → Bool)

/-- Loads a script and renders it. -/
def work (settings : Settings) (config : Value) (a : CommandLine.Arguments) (w : Workspace) :
    Work :=
  match Script.load yaml w.files (.ofString a.script) with
  | .error f => { workspace := w, fault? := some f }
  | .ok script =>
    let loaded := (LogLine.ofNotice? (.loaded script.operations.length)).toList
    match Scene.ofConfig config with
    | .error f => { workspace := w, messages := loaded, fault? := some (.conversion f) }
    | .ok scene =>
      let o := a.options.render settings writes script scene w
      { workspace := o.state.world
        messages := loaded ++ o.state.events.toList.filterMap Event.logLine?
        fault? := o.fault?
        summary? := RenderSummary.ofDirector? o.state }

/-- The level of messages from which on they are written. -/
def threshold (settings : Settings) (logLevel? : Option String) : Int :=
  LogLevel.threshold (Text.upper (logLevel?.getD settings.logLevel))

/-- Reports how the work went. -/
def report (settings : Settings) (a : CommandLine.Arguments) (work : Work) : Result :=
  let result (more : List Notice) (output : String) (ending : Ending) : Result :=
    { workspace := work.workspace
      messages := (work.messages ++ more.filterMap LogLine.ofNotice?).filter
        (·.passes (threshold settings a.logLevel?))
      output, ending }
  match work.fault?, work.summary? with
  | some .missingFrameCount, _ =>
    result [] (Fault.missingFramesMessage ++ "\n") (.exit failureCode)
  | some f, _ =>
    if f.isReported then result [.failed (f.message?.getD "")] "" (.exit failureCode)
    else result [] "" (.fault f)
  | none, some s => result [.rendered s.config.frameCount s.config.basename] "" (.exit 0)
  | none, none => result [] "" (.exit 0)

/-- A run of the program with the configuration of its project. -/
def run (settings : Settings) (config : Value) (arguments : List String) (w : Workspace) :
    Result :=
  match CommandLine.parse arguments with
  | .help => ⟨w, [], "", .help⟩
  | .refused message => ⟨w, [], "", .refused message⟩
  | .render a => report settings a (work yaml writes settings config a w)

end Program

end Flipbook
