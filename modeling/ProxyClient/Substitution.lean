/-
ProxyClient/Substitution.lean

Expanding `$(name)` in a statement before it is sent.  The places where `$(`
stands are found first, and are then gone through from the left: where the
text up to the first closing bracket is a name with a value, the value is
written in the place of the token.  The text of a value is not looked at
again; a name without a value stays as it stands, and so does an opening
without an end.  All places are counted in the bytes of the statement.
-/
import ProxyClient.Bind.Set

namespace ProxyClient

/-- Values by name. -/
structure Substitutions where
  /-- The names in the order in which they were first set. -/
  entries : List (String × Value) := []
  deriving Repr, Inhabited

namespace Substitutions

/-- Gives a name a value. -/
def set (subs : Substitutions) (name : String) (value : Value) : Substitutions :=
  ⟨BindSet.replaceFirst (fun entry => entry.1 == name) (name, value) subs.entries⟩

/-- Takes every name its value. -/
def clear (subs : Substitutions) : Substitutions :=
  { subs with entries := [] }

/-- The value of the name that is spelled by `name`. -/
def get? (subs : Substitutions) (name : Bytes) : Option Value :=
  (subs.entries.find? fun entry => Bytes.ofText entry.1 == name).map (·.2)

/-- The byte `$`. -/
def dollar : UInt8 := 0x24

/-- The byte `(`. -/
def opening : UInt8 := 0x28

/-- The byte `)`. -/
def closing : UInt8 := 0x29

/-- The places where `$(` stands, counted from `place` on.  No two of them
overlap, as the two bytes differ. -/
def openings (place : Nat) : Bytes → List Nat
  | [] => []
  | byte :: rest =>
    if byte = dollar ∧ rest.head? = some opening then place :: openings (place + 1) rest
    else openings (place + 1) rest

/-- Goes through the places `starts` at which a token may begin.  The first
`written` bytes of the template stand expanded in `out`. -/
def expandFrom (subs : Substitutions) (template : Bytes) (written : Nat) (out : Bytes) :
    List Nat → Bytes
  | [] => out ++ template.drop written
  | start :: starts =>
    if start < written then subs.expandFrom template written out starts
    else
      let behind := template.drop (start + 2)
      match behind.idxOf? closing with
      -- no later token can end either
      | none => out ++ template.drop written
      | some length =>
        match subs.get? (behind.take length) with
        | none => subs.expandFrom template written out starts
        | some value =>
          subs.expandFrom template (start + 2 + length + 1)
            (out ++ (template.take start).drop written ++ Bytes.ofText value.toText) starts

/-- Expands the bytes of a statement. -/
def expandBytes (subs : Substitutions) (template : Bytes) : Bytes :=
  subs.expandFrom template 0 [] (openings 0 template)

/-- Expands a statement.  The cuts are at letters of one byte, so what comes
out is a text. -/
def expand (subs : Substitutions) (template : String) : String :=
  if subs.entries.isEmpty then template
  else (Bytes.toText? (subs.expandBytes (Bytes.ofText template))).getD template

end Substitutions

end ProxyClient
