import Flipbook.Rendering
import Flipbook.Text.Numeral
import Flipbook.Text.Quoted

/-!
# The command line

The command line names a script and gives options.  An option is known by any beginning of its name
that no other option has, and its value follows after an equals sign or as the next word.  After two
hyphens on their own every word is taken as it is.
-/

namespace Flipbook

namespace CommandLine

/-- The name of the program. -/
def programName : String := "mdlanim"

/-- What a command line asks to render. -/
structure Arguments where
  script : String
  options : RenderOptions
  logLevel? : Option String

/-- What a command line asks for. -/
inductive Request
  /-- An explanation of the command line. -/
  | help
  /-- Nothing that can be done. -/
  | refused (message : String)
  /-- A script to be rendered. -/
  | render (arguments : Arguments)

/-- An option. -/
inductive Flag
  | help
  | outputDir
  | ext
  | size
  | step
  | logLevel
  deriving DecidableEq, Repr

namespace Flag

/-- All options in the order in which they are listed. -/
def all : List Flag := [help, outputDir, ext, size, step, logLevel]

/-- The name of an option. -/
def name : Flag → String
  | help => "--help"
  | outputDir => "--output-dir"
  | ext => "--ext"
  | size => "--size"
  | step => "--step"
  | logLevel => "--log-level"

/-- An option as it is called in messages. -/
def title : Flag → String
  | help => "-h/--help"
  | f => f.name

end Flag

/-! ### Words -/

/-- A word of the command line. -/
inductive Word
  /-- A word that is taken as it is. -/
  | plain (text : String)
  /-- Two hyphens on their own. -/
  | separator
  /-- An option, with a value if it has an equals sign. -/
  | flag (f : Flag) (value : Option String)
  /-- Short options for help in one word, and what follows them. -/
  | shortHelp (rest : Option String)
  /-- A word that looks like an option and is none. -/
  | unknown (text : String)
  deriving DecidableEq, Repr

/-- The word is a number with a minus sign. -/
def isNegativeNumber (cs : List Char) : Bool :=
  match cs with
  | '-' :: cs => match Text.spanDigits cs with
    | (whole, []) => !whole.isEmpty
    | (_, '.' :: cs) => match Text.spanDigits cs with
      | (fraction, []) => !fraction.isEmpty
      | _ => false
    | _ => false
  | _ => false

/-- The part of a word before its first equals sign, and the part after it. -/
def splitValue (cs : List Char) : List Char × Option String :=
  let before := cs.takeWhile (· != '=')
  match cs.drop before.length with
  | [] => (before, none)
  | _ :: value => (before, some (String.ofList value))

/-- What follows a short option for help: more of them, a value, which it does not take, or a letter
that is no option and comes too late to matter. -/
def afterShortHelp : List Char → Word
  | 'h' :: cs => afterShortHelp cs
  | '=' :: cs => .shortHelp (some (String.ofList cs))
  | '-' :: cs => .shortHelp (some (String.ofList ('-' :: cs)))
  | _ => .shortHelp none

/-- A word with one hyphen. -/
def shortWord (text : String) (cs : List Char) : Word :=
  match cs with
  | '-' :: 'h' :: cs => afterShortHelp cs
  | cs => if isNegativeNumber cs || cs.contains ' ' then .plain text else .unknown text

/-- A word with two hyphens; a beginning of several names is refused. -/
def longWord (text : String) (cs : List Char) : Except String Word :=
  let (name, value) := splitValue cs
  let matching := Flag.all.filter fun f => name.isPrefixOf f.name.toList
  match matching.find? fun f => f.name.toList == name, matching with
  | some f, _ => .ok (.flag f value)
  | none, [f] => .ok (.flag f value)
  | none, [] => .ok (if cs.contains ' ' then .plain text else .unknown text)
  | none, fs =>
    .error ("ambiguous option: " ++ text ++ " could match " ++ ", ".intercalate (fs.map Flag.name))

/-- What a word is, unless it is the separator. -/
def classify (text : String) : Except String Word :=
  match text.toList with
  | '-' :: '-' :: cs => longWord text ('-' :: '-' :: cs)
  | '-' :: c :: cs => .ok (shortWord text ('-' :: c :: cs))
  | _ => .ok (.plain text)

/-- The words of a command line. -/
def words : List String → Except String (List Word)
  | [] => .ok []
  | "--" :: rest => .ok (.separator :: rest.map .plain)
  | text :: rest => do return (← classify text) :: (← words rest)

/-! ### Arguments -/

/-- What has been read of a command line. -/
structure Progress where
  script? : Option String := none
  options : RenderOptions := {}
  logLevel? : Option String := none
  /-- The words that have no meaning. -/
  extras : List String := []

/-- A message about an option. -/
def about (f : Flag) (message : String) : Request :=
  .refused ("argument " ++ f.title ++ ": " ++ message)

/-- An option that is given a value and takes none. -/
def ignored (value : String) : Request :=
  about .help ("ignored explicit argument " ++ Text.quoted value)

/-- A whole number as the value of an option. -/
def number (f : Flag) (value : String) : Except Request Int :=
  match Text.integer? value with
  | some n => .ok n
  | none => .error (about f ("invalid int value: " ++ Text.quoted value))

/-- Sets an option. -/
def Progress.set (p : Progress) (f : Flag) (value : String) : Except Request Progress := do
  match f with
  | .help => throw (ignored value)
  | .outputDir => return { p with options := { p.options with outputDir? := some value } }
  | .ext => return { p with options := { p.options with ext? := some value } }
  | .size => return { p with options := { p.options with size? := some (← number f value) } }
  | .step => return { p with options := { p.options with steps? := some (← number f value) } }
  | .logLevel => return { p with logLevel? := some value }

/-- Takes a word as the script or, if there is one already, as a word without meaning. -/
def Progress.take (p : Progress) (text : String) : Progress :=
  match p.script? with
  | none => { p with script? := some text }
  | some _ => { p with extras := p.extras ++ [text] }

/-- Goes through the words.  A separator beside the word of the script belongs to it. -/
def read (p : Progress) : List Word → Except Request Progress
  | [] => .ok p
  | .shortHelp none :: _ | .flag .help none :: _ => .error .help
  | .shortHelp (some value) :: _ => .error (ignored value)
  | .flag f (some value) :: rest => do read (← p.set f value) rest
  | .flag f none :: .plain value :: rest => do read (← p.set f value) rest
  | .flag f none :: _ => .error (about f "expected one argument")
  | .unknown text :: rest => read { p with extras := p.extras ++ [text] } rest
  | .plain text :: .separator :: rest =>
    if p.script?.isNone then read (p.take text) rest
    else read { p with extras := p.extras ++ [text, "--"] } rest
  | .plain text :: rest => read (p.take text) rest
  | .separator :: .plain text :: rest =>
    if p.script?.isNone then read (p.take text) rest
    else read { p with extras := p.extras ++ ["--", text] } rest
  | .separator :: rest => read { p with extras := p.extras ++ ["--"] } rest

/-- What a command line asks for, once all its words have been read. -/
def Progress.request (p : Progress) : Request :=
  match p.script?, p.extras with
  | none, _ => .refused "the following arguments are required: script"
  | some script, [] => .render ⟨script, p.options, p.logLevel?⟩
  | some _, extras => .refused ("unrecognized arguments: " ++ " ".intercalate extras)

/-- What a command line asks for. -/
def parse (arguments : List String) : Request :=
  match words arguments with
  | .error message => .refused message
  | .ok ws => match read {} ws with
    | .error request => request
    | .ok p => p.request

/-- The form of a command line. -/
def usage : String :=
  "usage: " ++ programName ++ " [-h] [--output-dir OUTPUT_DIR] [--ext EXT] [--size SIZE]"
    ++ " [--step STEP] [--log-level LOG_LEVEL] script"

/-- What the options mean. -/
def help : String :=
  "\n".intercalate [
    usage, "",
    "Renders a script of operations to frames.", "",
    "  script                 the script, a document of operations",
    "  -h, --help             shows this text",
    "  --output-dir           the directory of frames and animations (anim)",
    "  --ext                  the extension of frames (png)",
    "  --size                 the width and height of frames (500)",
    "  --step                 the steps of spheres and tori (100)",
    "  --log-level            the level of messages (INFO)"]

/-- The line that says why a command line is refused. -/
def refusal (message : String) : String := programName ++ ": error: " ++ message

end CommandLine

end Flipbook
