/-
ProxyClient/Domain/Mapping.lean

Mapping the characters of a domain name.  Names that read the same are the
same name: capitals become small letters, letters of other widths and shapes
become plain ones, and what cannot be seen is left out.  Some characters may
not stand in a name at all.
-/
import ProxyClient.Domain.Mapping.Table
import ProxyClient.Text.Table

namespace ProxyClient.Domain

/-- What becomes of the characters of a range. -/
inductive Change where
  /-- They stay. -/
  | kept
  /-- Capital and small letters take turns, and the capitals become small. -/
  | paired
  /-- They become the characters from one on. -/
  | shifted (first : Nat)
  /-- Each becomes a character of its own. -/
  | each (chars : List Char)
  /-- All become the same text. -/
  | text (chars : List Char)
  deriving DecidableEq, Repr

/-- A range of characters, and what becomes of them. -/
structure MappingEntry where
  /-- The range. -/
  range : Text.CharRange
  /-- What becomes of it. -/
  change : Change
  deriving DecidableEq, Repr

namespace MappingEntry

/-- The entry that a word of the table spells. -/
def ofWord (word : List Char) : MappingEntry :=
  let split (sep : Char) := Text.splitFirst sep word
  match split '*', split '+', split ':', split '>' with
  | some (first, last), _, _, _ => ⟨⟨Text.hexadecimal first, Text.hexadecimal last⟩, .paired⟩
  | _, some (range, first), _, _ => ⟨.ofWord range, .shifted (Text.hexadecimal first)⟩
  | _, _, some (first, chars), _ =>
    let start := Text.hexadecimal first
    let chars := Text.listed chars
    ⟨⟨start, start + chars.length - 1⟩, .each chars⟩
  | _, _, _, some (range, chars) => ⟨.ofWord range, .text (Text.listed chars)⟩
  | _, _, _, _ => ⟨.ofWord word, .kept⟩

/-- What becomes of a character of the range. -/
def apply (entry : MappingEntry) (c : Char) : List Char :=
  let place := c.toNat - entry.range.first
  match entry.change with
  | .kept => [c]
  | .paired => if place % 2 = 0 then [Char.ofNat (c.toNat + 1)] else [c]
  | .shifted first => [Char.ofNat (first + place)]
  | .each chars => (chars[place]?).toList
  | .text chars => chars

end MappingEntry

/-- The entries of the table. -/
def mappingEntries : List MappingEntry :=
  (Text.words mappingTable).map MappingEntry.ofWord

/-- What becomes of a character; nothing if it may not stand in a name. -/
def mapChar? (c : Char) : Option (List Char) :=
  (mappingEntries.find? (·.range.contains c)).map (·.apply c)

/-- What becomes of a text; nothing if it holds a character that may not stand in a name. -/
def mapText? (chars : List Char) : Option (List Char) :=
  (chars.mapM mapChar?).map List.flatten

end ProxyClient.Domain
