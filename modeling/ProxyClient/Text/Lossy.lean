/-
ProxyClient/Text/Lossy.lean

Reading bytes as text when they may not be UTF-8.  Each maximal run of bytes
that begins a character without completing it, and each byte that begins
none, is read as one replacement character U+FFFD; everything else is read
as it stands.
-/
import ProxyClient.Bytes

namespace ProxyClient.Text

/-- What a leading byte announces: the number of bytes that follow, and the
range of the first of these. -/
structure Lead where
  /-- Bytes after the leading one. -/
  following : Nat
  /-- Least first byte after the leading one. -/
  least : UInt8
  /-- Greatest first byte after the leading one. -/
  greatest : UInt8
  deriving DecidableEq, Repr

/-- The announcement of a leading byte; nothing for a byte that leads no
character.  The narrowed ranges keep out overlong forms, surrogates and
numbers above U+10FFFF. -/
def Lead.ofByte? (byte : UInt8) : Option Lead :=
  if byte < 0x80 then some ⟨0, 0x80, 0xBF⟩
  else if byte < 0xC2 then none
  else if byte < 0xE0 then some ⟨1, 0x80, 0xBF⟩
  else if byte = 0xE0 then some ⟨2, 0xA0, 0xBF⟩
  else if byte = 0xED then some ⟨2, 0x80, 0x9F⟩
  else if byte < 0xF0 then some ⟨2, 0x80, 0xBF⟩
  else if byte = 0xF0 then some ⟨3, 0x90, 0xBF⟩
  else if byte < 0xF4 then some ⟨3, 0x80, 0xBF⟩
  else if byte = 0xF4 then some ⟨3, 0x80, 0x8F⟩
  else none

/-- The longest prefix of `bytes`, at most `n` long, whose first byte lies
between `least` and `greatest` and whose others are continuation bytes. -/
def continuation : Nat → UInt8 → UInt8 → Bytes → Bytes
  | n + 1, least, greatest, byte :: rest =>
    if least ≤ byte ∧ byte ≤ greatest then byte :: continuation n 0x80 0xBF rest else []
  | _, _, _, _ => []

/-- The character with leading byte `lead` and continuation bytes `tail`. -/
def scalar (lead : UInt8) (tail : Bytes) : Char :=
  let high := match tail.length with
    | 0 => lead.toNat
    | 1 => lead.toNat % 32
    | 2 => lead.toNat % 16
    | _ => lead.toNat % 8
  Char.ofNat (tail.foldl (fun n byte => 64 * n + byte.toNat % 64) high)

/-- The characters of a byte string, ill-formed parts replaced. -/
def replaceIllFormed : Bytes → List Char
  | [] => []
  | byte :: rest =>
    match Lead.ofByte? byte with
    | none => '\uFFFD' :: replaceIllFormed rest
    | some lead =>
      let tail := continuation lead.following lead.least lead.greatest rest
      let char := if tail.length = lead.following then scalar byte tail else '\uFFFD'
      char :: replaceIllFormed (rest.drop tail.length)
termination_by bytes => bytes.length
decreasing_by all_goals grind

/-- The text of a byte string: itself if it is UTF-8, and otherwise with the
ill-formed parts replaced. -/
def decodeLossy (bytes : Bytes) : String :=
  match bytes.toText? with
  | some text => text
  | none => String.ofList (replaceIllFormed bytes)

/-- A text survives its own bytes. -/
@[simp] theorem decodeLossy_ofText (text : String) : decodeLossy (Bytes.ofText text) = text := by
  simp [decodeLossy]

end ProxyClient.Text
