/-
ProxyClient/Cursor/Variables.lean

The bind variables and substitutions of a statement, and the values that
output variables bring back.
-/
import ProxyClient.Cursor.Basic
import ProxyClient.Double.Read

namespace ProxyClient

/-- Pairs names with values.  Lists of precisions and scales may be empty, and
must otherwise be as long as the list of names. -/
def pairValues (names : List String) (values : List Value) (precisions scales : List UInt32) :
    Except Error (List (String × Value)) :=
  let fits (list : List UInt32) : Bool := list.isEmpty || list.length == names.length
  if values.length = names.length ∧ fits precisions ∧ fits scales then
    .ok <| (names.zip values).zipIdx.map fun ((name, value), i) =>
      (name, value.withPrecision (precisions[i]?.getD 0) (scales[i]?.getD 0))
  else
    .error (.usage
      (.mismatchedBinds names.length values.length precisions.length scales.length))

namespace Cursor

variable {ν : Type}

/-! ### Input -/

/-- Binds an input variable. -/
def bindInput (key : BindKey) (value : Value) (cursor : Cursor ν) : Cursor ν :=
  { cursor with binds := cursor.binds.input key value }

/-- Binds several input variables, or none of them. -/
def bindInputs (keys : List String) (values : List Value) (precisions scales : List UInt32)
    (cursor : Cursor ν) : Outcome Unit (Cursor ν) :=
  match pairValues keys values precisions scales with
  | .ok pairs =>
    .ok () (pairs.foldl (fun cursor pair => cursor.bindInput (.ofText pair.1) pair.2) cursor)
  | .error e => .error e cursor

/-- Gives a substitution its value. -/
def substitute (name : String) (value : Value) (cursor : Cursor ν) : Cursor ν :=
  { cursor with substitutions := cursor.substitutions.set name value }

/-- Gives several substitutions their values, or none of them. -/
def substituteAll (names : List String) (values : List Value) (precisions scales : List UInt32)
    (cursor : Cursor ν) : Outcome Unit (Cursor ν) :=
  match pairValues names values precisions scales with
  | .ok pairs =>
    .ok () (pairs.foldl (fun cursor pair => cursor.substitute pair.1 pair.2) cursor)
  | .error e => .error e cursor

/-! ### Output -/

/-- Declares an output variable. -/
def bindOutput (key : BindKey) (type : ValueType) (capacity : UInt32) (cursor : Cursor ν) :
    Cursor ν :=
  { cursor with binds := cursor.binds.output key type capacity }

/-- The room that a returned number takes. -/
def numberCapacity : UInt32 := 8

/-- The bytes that an output variable brought back. -/
def outputBytes (cursor : Cursor ν) (name : String) : Option Bytes :=
  (cursor.result.output name).bind OutputBind.value

/-- The text that an output variable brought back. -/
def outputText (cursor : Cursor ν) (name : String) : Option String :=
  (cursor.outputBytes name).map Text.decodeLossy

/-- The integer that an output variable brought back as text. -/
def outputInteger (cursor : Cursor ν) (name : String) : Option Int := do
  Text.integer? (2 ^ 63) (Text.trim (← Bytes.toText? (← cursor.outputBytes name)))

/-- The number that an output variable brought back as text. -/
def outputDouble (cursor : Cursor ν) (name : String) : Option Double := do
  Double.ofText? (Text.trim (← Bytes.toText? (← cursor.outputBytes name)))

/-- The number of bytes that an output variable brought back. -/
def outputLength (cursor : Cursor ν) (name : String) : Nat :=
  ((cursor.outputBytes name).map List.length).getD 0

end Cursor

end ProxyClient
