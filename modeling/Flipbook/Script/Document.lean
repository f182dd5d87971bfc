import Flipbook.Script.Entry

/-!
# Scripts from documents

A document is a mapping with a list of operations and, where needed, named materials and the first
values of knobs.  `Script.ofDocument` reads it from the materials over the knobs to the operations
and stops at the first fault.
-/

namespace Flipbook

/-- Operations with the symbols that they refer to. -/
structure Script where
  operations : List (Operation Float)
  symbols : SymbolTable Float

namespace Constants

/-- A fault in a material of this name. -/
def fault (name : String) : FieldError → Fault
  | .refused f => .script (.badConstants name (.badChannel f))
  | .conversion f => .conversion f

/-- One channel of a material that is given by channels. -/
def channel (name : String) (fields : List (Scalar × Value)) (channel : String) :
    Except Fault (Reflection Float) :=
  match Value.lookup fields (.str channel) with
  | none => .error (.script (.badConstants name (.missingChannel channel)))
  | some v => ((Field.vector v).map Reflection.ofVec3).mapError (fault name)

/-- A material by channels, or by three numbers for all of them. -/
def ofValue (name : String) : Value → Except Fault (Constants Float)
  | .map fields => do
    return ⟨← channel name fields "red", ← channel name fields "green",
      ← channel name fields "blue"⟩
  | v => ((Field.vector v).map (uniform ∘ Reflection.ofVec3)).mapError (fault name)

end Constants

namespace SymbolTable

/-- Adds the materials of a document. -/
def addConstants (t : SymbolTable Float) :
    List (Scalar × Value) → Except Fault (SymbolTable Float)
  | [] => .ok t
  | (key, v) :: rest => do
    let name ← Fault.ofConversion key.toText
    (t.setConstants name (← Constants.ofValue name v)).addConstants rest

/-- Adds the knobs of a document. -/
def addKnobs (t : SymbolTable Float) : List (Scalar × Value) → Except Fault (SymbolTable Float)
  | [] => .ok t
  | (key, v) :: rest => do
    let name ← Fault.ofConversion key.toText
    let value ← (Field.number v).mapError fun
      | .refused f => .script (.badKnob key f)
      | .conversion f => .conversion f
    (t.setKnob name value).addKnobs rest

end SymbolTable

namespace Script

/-- Reads the entries of a list, the first of which has the given place. -/
def operationsFrom (index : Nat) : List Value → Except Fault (List (Operation Float))
  | [] => .ok []
  | entry :: rest => do
    return (← Operation.ofEntry entry index) :: (← operationsFrom (index + 1) rest)

/-- Reads a document; its symbols are added to those that are there already. -/
def ofDocument (doc : Value) (symbols : SymbolTable Float := .empty) : Except Fault Script := do
  let .map fields := doc | throw (.script .notMapping)
  let .list entries := Value.field fields "ops" | throw (.script .noOperations)
  let constants ← Fault.ofConversion (Value.field fields "constants").asMappingOrEmpty
  let symbols ← symbols.addConstants constants
  let knobs ← Fault.ofConversion (Value.field fields "knobs").asMappingOrEmpty
  let symbols ← symbols.addKnobs knobs
  return ⟨← operationsFrom 0 entries, symbols⟩

end Script

end Flipbook
