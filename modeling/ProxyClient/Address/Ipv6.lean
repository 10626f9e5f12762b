/-
ProxyClient/Address/Ipv6.lean

Addresses of eight pieces of 16 bits.  They are written as hexadecimal
numbers between colons; one run of zero pieces may be left out, and the last
two pieces may be written as four decimal numbers between points.  The
printed form leaves out the first of the longest runs of at least two zero
pieces.  The mixed form is the same, but it shows an address of four numbers
that is wrapped in one of eight pieces as such.
-/
import ProxyClient.Text.Numeral

namespace ProxyClient.Ipv6

/-! ### Reading -/

/-- The pieces read so far: those before the run left out, and those after it
once it was met. -/
structure Pieces where
  /-- Pieces in front. -/
  before : List Nat := []
  /-- Pieces behind the run left out. -/
  after : Option (List Nat) := none
  deriving Repr

namespace Pieces

/-- The number of pieces, the run left out counting as one. -/
def count (p : Pieces) : Nat :=
  p.before.length + match p.after with
    | none => 0
    | some after => after.length + 1

/-- Appends a piece. -/
def add (p : Pieces) (piece : Nat) : Pieces :=
  match p.after with
  | none => { p with before := p.before ++ [piece] }
  | some after => { p with after := some (after ++ [piece]) }

/-- All eight pieces, if there are as many. -/
def complete? (p : Pieces) : Option (List Nat) :=
  match p.after with
  | none => if p.before.length = 8 then some p.before else none
  | some after =>
    some (p.before ++ List.replicate (8 - p.before.length - after.length) 0 ++ after)

end Pieces

/-- A number below 256 without leading zeros, and what follows it. -/
def byte? (chars : List Char) : Option (Nat × List Char) :=
  let digits := chars.takeWhile Char.isDigit
  let plain := digits.head? ≠ some '0' ∨ digits.length = 1
  match Text.digits? digits with
  | some n => if plain ∧ n < 256 then some (n, chars.dropWhile Char.isDigit) else none
  | none => none

/-- A point, and what follows it. -/
def point? : List Char → Option (List Char)
  | '.' :: rest => some rest
  | _ => none

/-- The two pieces that four decimal numbers make. -/
def dotted? (chars : List Char) : Option (Nat × Nat) := do
  let (a, chars) ← byte? chars
  let (b, chars) ← byte? (← point? chars)
  let (c, chars) ← byte? (← point? chars)
  let (d, chars) ← byte? (← point? chars)
  if chars.isEmpty then some (256 * a + b, 256 * c + d) else none

/-- Reads pieces to the end of the text.  `fuel` bounds their number. -/
def pieces? : Nat → Pieces → List Char → Option Pieces
  | _, p, [] => some p
  | 0, _, _ => none
  | fuel + 1, p, chars@(c :: rest) =>
    if p.count = 8 then none
    else if c = ':' then
      if p.after.isSome then none else pieces? fuel { p with after := some [] } rest
    else
      let digits := (chars.take 4).takeWhile (Text.hexDigit? · |>.isSome)
      match chars.drop digits.length with
      | [] => some (p.add (Text.hexadecimal digits))
      | '.' :: _ =>
        if digits.isEmpty ∨ 6 < p.count then none
        else (dotted? chars).map fun (high, low) => (p.add high).add low
      | ':' :: more =>
        if more.isEmpty then none else pieces? fuel (p.add (Text.hexadecimal digits)) more
      | _ => none

/-- The eight pieces of an address. -/
def parse? (chars : List Char) : Option (List Nat) := do
  let p ← match chars with
    | ':' :: ':' :: rest => pieces? (chars.length + 1) { after := some [] } rest
    | ':' :: _ => none
    | _ => pieces? (chars.length + 1) {} chars
  p.complete?

/-! ### Printing -/

/-- The lengths of the runs of zeros that begin at each place. -/
def zeroRuns : List Nat → List Nat
  | [] => []
  | piece :: rest =>
    let runs := zeroRuns rest
    (if piece = 0 then runs.headD 0 + 1 else 0) :: runs

/-- A piece in hexadecimal. -/
def pieceText (piece : Nat) : String :=
  String.ofList (Nat.toDigits 16 piece)

/-- Pieces between colons. -/
def joined (pieces : List Nat) : String :=
  String.intercalate ":" (pieces.map pieceText)

/-- The printed form of an address. -/
def toText (pieces : List Nat) : String :=
  let runs := zeroRuns pieces
  let longest := runs.foldl max 0
  if longest < 2 then joined pieces
  else
    let start := runs.idxOf longest
    joined (pieces.take start) ++ "::" ++ joined (pieces.drop (start + longest))

/-- Two pieces as four decimal numbers between points. -/
def dottedText (high low : Nat) : String :=
  String.intercalate "." ([high / 256, high % 256, low / 256, low % 256].map Text.decimal)

/-- The mixed form of an address: four numbers behind `::ffff:` are written as such. -/
def mixedText : List Nat → String
  | [0, 0, 0, 0, 0, 0xffff, high, low] => "::ffff:" ++ dottedText high low
  | pieces => toText pieces

end ProxyClient.Ipv6
