import Flipbook.Script.Operation
import Flipbook.Value.Conversion

/-!
# What can be wrong with a script

The faults of a document that is read as a script, from a single field up to the whole, with their
messages.
-/

namespace Flipbook

/-- Why a value is refused in a field. -/
inductive FieldFault
  /-- A truth value where a whole number belongs. -/
  | truthValue
  /-- No whole number. -/
  | notWhole (v : Value)
  /-- No number. -/
  | notNumber (v : Value)
  /-- No sequence of three. -/
  | notTriple (v : Value)
  /-- No text, or an empty one. -/
  | noName (v : Value)
  /-- A text that names no axis. -/
  | unknownAxis (v : Value)
  /-- A number that is no axis. -/
  | axisOutOfRange (v : Value)

/-- The message of a fault. -/
def FieldFault.message : FieldFault → String
  | truthValue => "bool は整数として扱わない"
  | notWhole v => "整数ではありません: " ++ v.display
  | notNumber v => "数値ではありません: " ++ v.display
  | notTriple v => "3 要素の数値列が必要です: " ++ v.display
  | noName v => "空でない文字列が必要です: " ++ v.display
  | unknownAxis v => "axis は x/y/z のいずれか: " ++ v.display
  | axisOutOfRange v => "axis は 0/1/2 のいずれか: " ++ v.display

/-- The message holds no number that is too long to be written. -/
def FieldFault.isWritable : FieldFault → Bool
  | truthValue => true
  | notWhole v | notNumber v | notTriple v | noName v | unknownAxis v | axisOutOfRange v =>
    v.isWritable

/-- Why a field is not read: its value is refused, or a number in it is not converted or not
written. -/
inductive FieldError
  | refused (f : FieldFault)
  | conversion (f : ConversionFault)

/-- What comes of a value that is refused: the fault, unless its message cannot be written. -/
def FieldFault.error (f : FieldFault) : FieldError :=
  if f.isWritable then .refused f else .conversion .tooManyDigits

/-- Why an entry is no operation. -/
inductive EntryFault
  /-- The entry is no mapping. -/
  | notMapping (entry : Value)
  /-- The entry names no operation. -/
  | noOpcode
  /-- There is no operation of this name. -/
  | unknownOpcode (name : String)
  /-- The operation has no such fields. -/
  | unknownFields (op : Opcode) (fields : List Scalar)
  /-- A field is missing. -/
  | missingField (op : Opcode) (field : String)
  /-- A field has a value that is refused. -/
  | badField (op : Opcode) (field : String) (cause : FieldFault)

/-- The message of a fault. -/
def EntryFault.message : EntryFault → String
  | notMapping entry => "マッピングが必要です: " ++ entry.display
  | noOpcode => "'op' キーがありません"
  | unknownOpcode name => "未知の opcode: " ++ Text.quoted name
  | unknownFields op fields =>
    op.name ++ " に未知のフィールド: " ++ bracketed "[" "]" (fields.map Scalar.display)
  | missingField op field => op.name ++ " に必須フィールド '" ++ field ++ "' がありません"
  | badField op field cause => op.name ++ "." ++ field ++ ": " ++ cause.message

/-- The message holds no number that is too long to be written. -/
def EntryFault.isWritable : EntryFault → Bool
  | notMapping entry => entry.isWritable
  | unknownFields _ fields => fields.all Scalar.isWritable
  | badField _ _ cause => cause.isWritable
  | noOpcode | unknownOpcode _ | missingField .. => true

/-- Why a value is no material. -/
inductive ConstantsFault
  /-- A colour channel is missing. -/
  | missingChannel (name : String)
  /-- A channel is refused. -/
  | badChannel (cause : FieldFault)

/-- The message of a fault. -/
def ConstantsFault.message : ConstantsFault → String
  | missingChannel name => Text.quoted name
  | badChannel cause => cause.message

/-- The message holds no number that is too long to be written. -/
def ConstantsFault.isWritable : ConstantsFault → Bool
  | missingChannel _ => true
  | badChannel cause => cause.isWritable

/-- Why a document is no script. -/
inductive ScriptFault
  /-- The document is no mapping. -/
  | notMapping
  /-- There is no list of operations. -/
  | noOperations
  /-- An entry of the list is refused. -/
  | entry (index : Int) (cause : EntryFault)
  /-- A material is refused. -/
  | badConstants (name : String) (cause : ConstantsFault)
  /-- The value of a knob is refused. -/
  | badKnob (name : Scalar) (cause : FieldFault)
  /-- The file cannot be opened. -/
  | unreadable (path : String)
  /-- The file holds no document. -/
  | malformed (path : String)

namespace ScriptFault

/-- A message with the place in the list of operations before it. -/
def located (index : Option Int) (message : String) : String :=
  match index with
  | none => message
  | some i => "op #" ++ toString i ++ ": " ++ message

/-- The place of the fault in the list of operations. -/
def index? : ScriptFault → Option Int
  | entry i _ => some i
  | _ => none

/-- The message without the place. -/
def description : ScriptFault → String
  | notMapping => "ドキュメントのトップレベルはマッピングである必要があります"
  | noOperations => "'ops' リストがありません"
  | entry _ cause => cause.message
  | badConstants name cause => "constants " ++ Text.quoted name ++ " が不正です: " ++ cause.message
  | badKnob name cause => "knob " ++ name.display ++ " が不正です: " ++ cause.message
  | unreadable path => "スクリプトを開けません: " ++ path
  | malformed path => "YAML として読めません: " ++ path

/-- The message of a fault. -/
def message (f : ScriptFault) : String := located f.index? f.description

/-- The message holds no number that is too long to be written. -/
def isWritable : ScriptFault → Bool
  | entry i cause => Text.isWritable i && cause.isWritable
  | badConstants _ cause => cause.isWritable
  | badKnob name cause => name.isWritable && cause.isWritable
  | notMapping | noOperations | unreadable _ | malformed _ => true

end ScriptFault

end Flipbook
