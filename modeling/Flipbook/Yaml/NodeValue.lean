import Flipbook.Text.Base64
import Flipbook.Text.Case
import Flipbook.Text.Numeral
import Flipbook.Value.Conversion
import Flipbook.Yaml.Lexer
import Flipbook.Yaml.Node
import Flipbook.Yaml.Reader

/-!
# From nodes to values

A node has a value according to its kind.  A mapping takes over the entries of others that are
given under the merge key, and its own entries count more.
-/

namespace Flipbook.Yaml

namespace ScalarValue

/-- A scalar without a value. -/
def fault {β : Type} (f : ScalarFault) : Except ReadFault β := .error (.scalar f)

/-- A part of a computation that fails for a numeral that is none. -/
def orMalformed {β : Type} : Option β → Except ReadFault β
  | some x => .ok x
  | none => fault .malformed

/-- The truth value of a word in any case. -/
def bool (text : String) : Except ReadFault Bool :=
  let word := Text.lower text
  if ["yes", "true", "on"].contains word then .ok true
  else if ["no", "false", "off"].contains word then .ok false
  else fault .notTruthValue

/-- A numeral without gaps and its sign. -/
def signed (text : String) : Except ReadFault (Bool × List Char) :=
  match text.toList.filter (· != '_') with
  | [] => fault .noCharacters
  | '-' :: cs => .ok (true, cs)
  | '+' :: cs => .ok (false, cs)
  | cs => .ok (false, cs)

/-- The value of a digit in base sixteen, also of one of another script. -/
def digitValue? (c : Char) : Option Nat := (Text.hexDigitValue? c).or (Text.digitValue? c)

/-- The numeral after a zero and the letter of its base, if these stand at the start. -/
def dropBase (letter : Char) : List Char → List Char
  | '0' :: c :: cs => if c.toLower == letter then cs else '0' :: c :: cs
  | cs => cs

/-- The number of a numeral in a base, which may stand between blanks, have a sign and name its
base. -/
def inBase (base : Nat) (letter : Char) (cs : List Char) : Option Int := do
  let (negative, cs) := Text.splitSign (Text.trimBy Text.isNumeralBlank cs)
  let digits := dropBase letter cs
  if digits.isEmpty then none
  let n ← digits.foldlM (fun n c => match digitValue? c with
    | some d => if d < base then some (base * n + d) else none
    | none => none) 0
  return if negative then -(n : Int) else n

/-- The groups of a text between colons. -/
def groups (cs : List Char) : List (List Char) :=
  cs.foldr (fun c acc => match c, acc with
    | ':', acc => [] :: acc
    | c, g :: gs => (c :: g) :: gs
    | c, [] => [[c]]) [[]]

/-- A number without its sign, in base ten or as its start says. -/
def magnitude (cs : List Char) : Option Int :=
  match cs with
  | ['0'] => some 0
  | '0' :: 'b' :: cs => inBase 2 'b' cs
  | '0' :: 'x' :: cs => inBase 16 'x' cs
  | '0' :: cs => inBase 8 'o' ('0' :: cs)
  | cs =>
    if cs.contains ':' then
      (groups cs).foldlM (fun n g => do return 60 * n + (← Text.integer? (String.ofList g))) 0
    else Text.integer? (String.ofList cs)

/-- A whole number. -/
def int (text : String) : Except ReadFault Int := do
  let (negative, cs) ← signed text
  if cs.isEmpty then fault .noCharacters
  let n ← orMalformed (magnitude cs)
  return if negative then -n else n

/-- The sum of groups in base sixty, the last of which has the weight `weight`. -/
def sexagesimal (groups : List Float) : Float :=
  (groups.reverse.foldl (fun (sum, weight) x => (sum + x * weight, weight * 60.0)) (0.0, 1.0)).1

/-- A float. -/
def float (text : String) : Except ReadFault Float := do
  let (negative, cs) ← signed (Text.lower text)
  let x ←
    if cs == ".inf".toList then pure (1.0 / 0.0)
    else if cs == ".nan".toList then pure (0.0 / 0.0)
    else if cs.contains ':' then
      (orMalformed ((groups cs).mapM fun g => Text.float? (String.ofList g))).map sexagesimal
    else orMalformed (Text.float? (String.ofList cs))
  return if negative then -x else x

/-- A date or a moment. -/
def timestamp (text : String) : Except ReadFault Scalar :=
  match Timestamp.ofText? text with
  | none => fault .notTimestamp
  | some t => orMalformed t.value?

/-- The value of a scalar of a kind that scalars have. -/
def ofText (tag : Tag) (text : String) : Except ReadFault Scalar :=
  match tag with
  | .null => .ok .null
  | .bool => (bool text).map .bool
  | .int => (int text).map .int
  | .float => (float text).map .float
  | .str => .ok (.str text)
  | .timestamp => timestamp text
  | .binary => match Text.ofBase64? text with
    | some data => .ok (.bytes data)
    | none => .error .malformed
  | _ => .error .malformed

end ScalarValue

namespace Tag

/-- Scalars are of this kind. -/
def isScalar : Tag → Bool
  | null | bool | int | float | binary | timestamp | str => true
  | _ => false

end Tag

namespace Node

/-- The kind of a node. -/
def tag : Node → Tag
  | scalar t _ | sequence t _ | mapping t _ => t

/-- The value of a key, which must be a scalar. -/
def keyOfValue : Value → Except ReadFault Scalar
  | .scalar s => .ok s
  | _ => .error .malformed

mutual

/-- The text of a scalar, or of the default value of a mapping. -/
def text : Node → Except ReadFault String
  | scalar _ text => .ok text
  | sequence _ _ => .error .malformed
  | mapping _ entries => defaultText entries

/-- The text of the default value among entries. -/
def defaultText : List (Node × Node) → Except ReadFault String
  | [] => .error .malformed
  | (k, v) :: rest => if k.tag = .value then text v else defaultText rest

end

mutual

/-- The value of a node. -/
def value : Node → Except ReadFault Value
  | scalar tag s =>
    if tag.isScalar then (ScalarValue.ofText tag s).map .scalar else .error .malformed
  | sequence .seq items => do return .list (← values items)
  | sequence .omap items | sequence .pairs items => do return .list (← pairs items)
  | sequence _ _ => .error .malformed
  | mapping .map entries => do
    let (merged, own) ← fields entries
    return .ofFields (merged ++ own)
  | mapping .set entries => do
    let (merged, own) ← fields entries
    match Value.ofFields (merged ++ own) with
    | .map fs => return .set (fs.map (·.1))
    | v => return v
  | mapping tag entries => do
    if tag.isScalar then return .scalar (← ScalarValue.ofText tag (← defaultText entries))
    else .error .malformed

/-- The values of nodes in order. -/
def values : List Node → Except ReadFault (List Value)
  | [] => .ok []
  | n :: ns => do return (← value n) :: (← values ns)

/-- Mappings of one entry each as pairs of key and value. -/
def pairs : List Node → Except ReadFault (List Value)
  | [] => .ok []
  | mapping _ [(k, v)] :: ns => do
    return .tuple [← value k, ← value v] :: (← pairs ns)
  | _ :: _ => .error .malformed

/-- The entries of a mapping: those that it takes over, and its own. -/
def fields : List (Node × Node) →
    Except ReadFault (List (Scalar × Value) × List (Scalar × Value))
  | [] => .ok ([], [])
  | (k, v) :: rest => do
    if k.tag = .merge then
      let more ← merged v
      let (fs, own) ← fields rest
      return (more ++ fs, own)
    else
      let key ← match k with
        | scalar .value s => pure (.str s)
        | k => do keyOfValue (← value k)
      let x ← value v
      let (fs, own) ← fields rest
      return (fs, (key, x) :: own)

/-- The entries that are taken over from a mapping, or from several, of which the first counts
most. -/
def merged : Node → Except ReadFault (List (Scalar × Value))
  | mapping _ entries => do
    let (more, own) ← fields entries
    return more ++ own
  | sequence _ items => mergedAll items
  | scalar _ _ => .error .malformed

/-- The entries that are taken over from several mappings, those of the last one first. -/
def mergedAll : List Node → Except ReadFault (List (Scalar × Value))
  | [] => .ok []
  | mapping _ entries :: rest => do
    let (more, own) ← fields entries
    return (← mergedAll rest) ++ (more ++ own)
  | _ :: _ => .error .malformed

end

end Node

/-- The value of the document in a text; an empty text has a missing value. -/
def read (text : String) : Except ReadFault Value := do
  match ← Reading.document (← Token.ofText text) with
  | none => return .null
  | some n => n.value

/-- The value of the document in a file. -/
def readFile (content : FileContent) : Except ReadFault Value :=
  match content.text? with
  | some text => read text
  | none => .error .undecodable

/-- The reader whose values are those of documents; a text whose value would contain itself is
malformed to it. -/
def reader : Reader Value := ⟨readFile, Value.entries?⟩

end Flipbook.Yaml
