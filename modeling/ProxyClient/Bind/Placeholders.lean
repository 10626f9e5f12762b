/-
ProxyClient/Bind/Placeholders.lean

The placeholders of a statement: `?`, and a sigil `:`, `@` or `$` followed by
letters, digits and underscores.  Quoted text holds none, and `::` is a type
cast.  The statement is gone through byte by byte, and the names are cut out
of it by their places.
-/
import ProxyClient.Bind.Key
import ProxyClient.Bytes
import ProxyClient.Text.Split

namespace ProxyClient

/-- The placeholders of a statement. -/
structure Placeholders where
  /-- The names, without sigils, in the order of the statement. -/
  names : List String := []
  /-- The highest position. -/
  maxPosition : Nat := 0
  deriving DecidableEq, Repr

namespace Placeholders

/-- The characters of placeholder names. -/
def isNameChar (c : Char) : Bool :=
  c.isAlphanum || c == '_'

/-- The bytes of placeholder names. -/
def isNameByte (byte : UInt8) : Bool :=
  isNameChar (Char.ofUInt8 byte)

/-- The bytes that begin and end quoted text. -/
def isQuoteByte (byte : UInt8) : Bool :=
  byte == '\''.toUInt8 || byte == '"'.toUInt8

/-- The bytes that introduce a placeholder. -/
def isSigilByte (byte : UInt8) : Bool :=
  byte == ':'.toUInt8 || byte == '@'.toUInt8 || byte == '$'.toUInt8

/-- Adds the placeholder that `sigil` introduces: a position if `ident` is a
number below 65536, and otherwise a name, which `$` does not introduce. -/
def add (found : Placeholders) (sigil : UInt8) (ident : String) : Placeholders :=
  match Text.natural? 65536 ident with
  | some n => { found with maxPosition := max found.maxPosition n }
  | none =>
    if sigil = '$'.toUInt8 then found else { found with names := found.names ++ [ident] }

/-- How far a scan has come. -/
structure Progress where
  /-- The placeholders so far. -/
  found : Placeholders := {}
  /-- The number of `?` so far, at most 65535. -/
  anonymous : Nat := 0
  /-- The quote that ends the text in which the scan stands, if it is quoted. -/
  quote : Option UInt8 := none
  deriving DecidableEq, Repr

/-- Takes note of a `?`. -/
def Progress.addAnonymous (p : Progress) : Progress :=
  let count := min (p.anonymous + 1) 65535
  { p with
    found := { p.found with maxPosition := max p.found.maxPosition count }, anonymous := count }

/-- Goes on from the byte at a place, with the rest of the bytes behind it, and
tells how many of the rest are done with, too.  Nothing if a letter were cut in
two. -/
def Progress.step (sql : String) (place : Nat) (byte : UInt8) (rest : Bytes) (p : Progress) :
    Option (Progress × Nat) :=
  match p.quote with
  | some quote => some (if byte = quote then { p with quote := none } else p, 0)
  | none =>
    if isQuoteByte byte then some ({ p with quote := some byte }, 0)
    else if byte = '?'.toUInt8 then some (p.addAnonymous, 0)
    else if byte = ':'.toUInt8 ∧ rest.head? = some ':'.toUInt8 then some (p, 1)
    else if isSigilByte byte then
      let length := (rest.takeWhile isNameByte).length
      if length = 0 then some (p, 0)
      else
        (Text.cut? sql (place + 1) (place + 1 + length)).map fun ident =>
          ({ p with found := p.found.add byte ident }, length)
    else some (p, 0)

/-- Goes on from a place to the end. -/
def scanFrom (sql : String) (p : Progress) (place : Nat) : Bytes → Option Placeholders
  | [] => some p.found
  | byte :: rest =>
    match p.step sql place byte rest with
    | none => none
    | some (p, more) => scanFrom sql p (place + 1 + more) (rest.drop more)
termination_by bytes => bytes.length
decreasing_by
  simp only [List.length_cons, List.length_drop]
  omega

/-- The placeholders of a statement; nothing if a letter were cut in two. -/
def scan? (sql : String) : Option Placeholders :=
  scanFrom sql {} 0 (Bytes.ofText sql)

/-- The placeholders of a statement.  Names are spelled in bytes that are
letters of their own, so no letter is cut in two. -/
def scan (sql : String) : Placeholders :=
  (scan? sql).getD {}

/-- Whether a bind key has a placeholder. -/
def contains (found : Placeholders) : BindKey → Bool
  | .name text => found.names.any (Text.sameName · text)
  | .position n => n.toNat ≤ found.maxPosition

end Placeholders

end ProxyClient
