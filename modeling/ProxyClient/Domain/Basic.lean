/-
ProxyClient/Domain/Basic.lean

Domain names: labels with points between them.  A name is read in the form
in which all spellings of it agree: its characters are mapped, marks are
composed with their letters, and labels written in ASCII by means of numbers
are decoded.  Labels may be empty.

A label must not begin with a mark, and joiners must stand where they show.
If any label is written from right to left, no label may mix directions.
-/
import ProxyClient.Domain.Direction
import ProxyClient.Domain.Joiner
import ProxyClient.Domain.Mapping
import ProxyClient.Domain.Punycode

namespace ProxyClient.Domain

/-- No label holds one of these. -/
def isForbidden (c : Char) : Bool :=
  c.toNat ≤ 0x20 || c.toNat = 0x7F ||
    c ∈ ['#', '%', '/', ':', '<', '>', '?', '@', '[', '\\', ']', '^', '|']

/-- What stands in front of a label that is written in ASCII by means of numbers. -/
def encodedPrefix : List Char := ['x', 'n', '-', '-']

/-- The number of characters that may stand behind the prefix. -/
def encodedLimit : Nat := 2000

/-- The number of characters that a label may have, unless all of them are in ASCII. -/
def labelLimit : Nat := 1000

/-- A character is in ASCII. -/
def isAscii (c : Char) : Bool :=
  c.toNat < 0x80

/-- A label that may stand in a name, its directions aside. -/
def isSound (label : List Char) : Bool :=
  !label.head?.any Text.isMark && joinersFit [] label &&
    (label.all isAscii || label.length ≤ labelLimit)

/-- The label that the text behind the prefix stands for.  It must need this way of being
written, and mapping and composing must leave it as it is.  It is not decoded once more,
whatever it begins with. -/
def decodeLabel? (text : List Char) : Option (List Char) :=
  if encodedLimit < text.length then none
  else
    match Punycode.decode? text with
    | none => none
    | some label =>
      if label.all isAscii ∨ label.any isForbidden then none
      else if mapText? label = some label ∧ Text.composed label = label then some label
      else none

/-- The label that a mapped label stands for. -/
def readLabel? (label : List Char) : Option (List Char) :=
  let meant :=
    if encodedPrefix.isPrefixOf label then decodeLabel? (label.drop encodedPrefix.length)
    else if label.any isForbidden then none
    else some label
  meant.filter isSound

/-- The labels of a name; nothing if it is none. -/
def labels? (name : List Char) : Option (List (List Char)) :=
  match mapText? name with
  | none => none
  | some mapped =>
    match (Text.splitAll '.' (Text.composed mapped)).mapM readLabel? with
    | none => none
    | some labels =>
      if labels.any hasRightToLeft ∧ !labels.all keepsDirection then none else some labels

end ProxyClient.Domain
