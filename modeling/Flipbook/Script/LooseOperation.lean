import Flipbook.Script.Operation

/-!
# Operations with unchecked fields

The fields of an operation are checked when it is read from an entry of a script.  An operation
that is made directly may hold any value in any of them.
-/

namespace Flipbook

/-- An operation with any value in each of its fields. -/
structure LooseOperation where
  opcode : Opcode
  /-- The value of a field. -/
  field : String → Value

namespace LooseOperation

/-- The values of the fields, in the order of `Opcode.fields`. -/
def fieldList (op : LooseOperation) : List Value := op.opcode.fields.map op.field

/-- The values of some fields by their names. -/
def parameters (op : LooseOperation) (fields : List String) : List (Scalar × Value) :=
  fields.map fun f => (.str f, op.field f)

end LooseOperation

/-- An operation whose fields happen to be as they should. -/
def Operation.loose (op : Operation Float) : LooseOperation where
  opcode := op.opcode
  field name := ((op.opcode.fields.zip op.fieldValues).lookup name).getD .null

end Flipbook
