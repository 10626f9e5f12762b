/-
ProxyClient/Proofs/Wire/Items.lean

Values of different kinds, written one behind the other and read by the list
of their kinds.  What is read is what was written, and the bytes behind it
stay where they are:

    readAll kinds (bytes ++ rest) = .ok (items, rest)

If the bytes are torn off before the end, then a byte is missing in one of
the values, and it is missed there: no other values are read instead.  Two
lists of the same kinds are told apart by their bytes, whatever stands behind
them.

The second is said of a single decoder first (`RefusesTorn`).  A decoder that
goes on as another one behind its first bytes hands the rest over to it
(`RefusesTorn.append`), and everything longer than a number or a name is put
together by this one step: a length and what it counts, a value and those
behind it.
-/
import Mathlib.Data.List.TakeWhile
import ProxyClient.Proofs.Message.Values

namespace ProxyClient

/-- Bytes are missing at the end. -/
def WireFault.TellsShortage : WireFault → Prop
  | emptyBuffer | shortInteger .. | shortBytes .. | noTerminator => True
  | _ => False

namespace Wire

/-! ### Bytes that are torn off -/

/-- The decoder misses what is torn off the end of these bytes. -/
def RefusesTorn {α : Type} (decoder : Decoder α) (bytes : Bytes) : Prop :=
  ∀ front lost, bytes = front ++ lost → lost ≠ [] →
    ∃ fault : WireFault, fault.TellsShortage ∧ decoder front = .error fault

theorem length_lt_of_torn {bytes front lost : Bytes} (split : bytes = front ++ lost)
    (torn : lost ≠ []) : front.length < bytes.length := by
  have some := List.length_pos_iff.mpr torn
  rw [split, List.length_append]
  omega

variable {α β : Type}

theorem refusesTorn_nil (decoder : Decoder α) : RefusesTorn decoder [] := by
  intro front lost split torn
  exact absurd (List.append_eq_nil_iff.mp split.symm).2 torn

/-- What comes behind a decoder does not make it read less. -/
theorem RefusesTorn.bind {decoder : Decoder α} {bytes : Bytes} (h : RefusesTorn decoder bytes)
    (f : α → Decoder β) : RefusesTorn (decoder >>= f) bytes := by
  intro front lost split torn
  obtain ⟨fault, short, failed⟩ := h front lost split torn
  exact ⟨fault, short, bind_error failed f⟩

/-- **A decoder that goes on as another one behind some bytes misses what is
torn off them, or what is torn off the bytes of the other.** -/
theorem RefusesTorn.append {decoder next : Decoder α} {first second : Bytes}
    (h : RefusesTorn decoder first) (onward : ∀ rest, decoder (first ++ rest) = next rest)
    (behind : RefusesTorn next second) : RefusesTorn decoder (first ++ second) := by
  intro front lost split torn
  rcases List.append_eq_append_iff.mp split with ⟨more, rfl, rest⟩ | ⟨more, cut, rfl⟩
  · -- the first bytes are there
    obtain ⟨fault, short, failed⟩ := behind more lost rest torn
    exact ⟨fault, short, (onward more).trans failed⟩
  · cases more with
    | nil =>
      -- they are there, and nothing else
      obtain ⟨fault, short, failed⟩ := behind [] second rfl torn
      have all := onward []
      rw [List.append_nil] at cut all
      exact ⟨fault, short, (congrArg decoder cut.symm).trans (all.trans failed)⟩
    | cons byte more => exact h front (byte :: more) cut (List.cons_ne_nil byte more)

/-! ### Kinds of values -/

theorem refusesTorn_u8 (n : UInt8) : RefusesTorn u8 (encodeU8 n) := by
  intro front lost split torn
  have few := length_lt_of_torn split torn
  obtain rfl : front = [] := List.length_eq_zero_iff.mp (Nat.lt_one_iff.mp few)
  exact ⟨.emptyBuffer, trivial, rfl⟩

theorem refusesTorn_unsigned {field : IntegerField} {digits : Bytes}
    (size : digits.length = field.width) : RefusesTorn (unsigned field) digits := by
  intro front lost split torn
  have few := length_lt_of_torn split torn
  rw [size] at few
  exact ⟨.shortInteger field front.length, trivial, if_pos few⟩

theorem refusesTorn_take (bytes : Bytes) : RefusesTorn (take bytes.length) bytes := by
  intro front lost split torn
  exact ⟨.shortBytes front.length bytes.length, trivial, if_pos (length_lt_of_torn split torn)⟩

/-- Without its zero, nothing ends the text. -/
theorem refusesTorn_terminated {bytes : Bytes} (h : (0 : UInt8) ∉ bytes) :
    RefusesTorn terminated (encodeTerminated bytes) := by
  intro front lost split torn
  have inside : front <+: bytes := by
    have beginning : front <+: bytes ++ [0] := ⟨lost, split.symm⟩
    rcases List.prefix_concat_iff.mp beginning with all | inside
    · have few := length_lt_of_torn split torn
      rw [all] at few
      exact absurd few (Nat.lt_irrefl _)
    · exact inside
  have none : front.dropWhile (· ≠ 0) = [] := by
    rw [List.dropWhile_eq_nil_iff]
    intro byte member
    exact decide_eq_true (ne_of_mem_of_not_mem (inside.subset member) h)
  refine ⟨.noTerminator, trivial, ?_⟩
  rw [terminated, none]

theorem refusesTorn_counted {bytes : Bytes} (short : bytes.length < 2 ^ 32) :
    RefusesTorn counted (encodeCounted bytes) :=
  RefusesTorn.append
    (((refusesTorn_unsigned (Bytes.length_bigEndian ..)).bind _).bind _)
    (counted_bigEndian short) (refusesTorn_take bytes)

theorem refusesTorn_nullable {value : Option Bytes} (short : IsShort value) :
    RefusesTorn nullable (encodeNullable value) := by
  have length (count : Nat) : RefusesTorn nullable (Bytes.bigEndian 4 count) :=
    ((refusesTorn_unsigned (Bytes.length_bigEndian ..)).bind _).bind _
  cases value with
  | none => exact length _
  | some bytes =>
    have fits : bytes.length < 2 ^ 31 := short bytes rfl
    have four : (Bytes.bigEndian 4 bytes.length).length = 4 := Bytes.length_bigEndian ..
    have told := told_bigEndian fits
    refine RefusesTorn.append (length bytes.length)
      (nullable_of_nonneg four (told.symm ▸ fits)) ?_
    rw [told]
    exact (refusesTorn_take bytes).bind _

/-! ### Items -/

/-- The kinds of values that messages are made of. -/
inductive ItemKind where
  /-- A byte. -/
  | u8
  /-- An unsigned number of two bytes. -/
  | u16
  /-- An unsigned number of four bytes. -/
  | u32
  /-- A signed number of four bytes. -/
  | i32
  /-- An unsigned number of eight bytes. -/
  | u64
  /-- A signed number of eight bytes. -/
  | i64
  /-- A text that ends with a zero byte. -/
  | name
  /-- Bytes with their number in front. -/
  | counted
  /-- A text with the number of its bytes in front. -/
  | text
  /-- Bytes with their number in front, or nothing. -/
  | nullable
  deriving DecidableEq, Repr

/-- A value of one of the kinds. -/
inductive Item where
  /-- A byte. -/
  | u8 (n : UInt8)
  /-- An unsigned number of two bytes. -/
  | u16 (n : UInt16)
  /-- An unsigned number of four bytes. -/
  | u32 (n : UInt32)
  /-- A signed number of four bytes. -/
  | i32 (n : Int32)
  /-- An unsigned number of eight bytes. -/
  | u64 (n : UInt64)
  /-- A signed number of eight bytes. -/
  | i64 (n : Int64)
  /-- A text that ends with a zero byte. -/
  | name (content : String)
  /-- Bytes with their number in front. -/
  | counted (bytes : Bytes)
  /-- A text with the number of its bytes in front. -/
  | text (content : String)
  /-- Bytes with their number in front, or nothing. -/
  | nullable (value : Option Bytes)
  deriving DecidableEq, Repr

/-- Reads a value of a kind. -/
def ItemKind.decoder : ItemKind → Decoder Item
  | u8 => return .u8 (← Wire.u8)
  | u16 => return .u16 (← Wire.u16)
  | u32 => return .u32 (← Wire.u32)
  | i32 => return .i32 (← Wire.i32)
  | u64 => return .u64 (← Wire.u64)
  | i64 => return .i64 (← Wire.i64)
  | name => return .name (← Wire.name)
  | counted => return .counted (← Wire.counted)
  | text => return .text (← Wire.text)
  | nullable => return .nullable (← Wire.nullable)

namespace Item

/-- The kind of a value. -/
def kind : Item → ItemKind
  | u8 _ => .u8
  | u16 _ => .u16
  | u32 _ => .u32
  | i32 _ => .i32
  | u64 _ => .u64
  | i64 _ => .i64
  | name _ => .name
  | counted _ => .counted
  | text _ => .text
  | nullable _ => .nullable

/-- The bytes of a value. -/
def encode : Item → Bytes
  | u8 n => encodeU8 n
  | u16 n => encodeU16 n
  | u32 n => encodeU32 n
  | i32 n => encodeI32 n
  | u64 n => encodeU64 n
  | i64 n => encodeI64 n
  | name content => encodeName content
  | counted bytes => encodeCounted bytes
  | text content => encodeText content
  | nullable value => encodeNullable value

/-- The format can express the value. -/
def IsExpressible : Item → Prop
  | name content => IsName content
  | counted bytes => bytes.length < 2 ^ 32
  | text content => (Bytes.ofText content).length < 2 ^ 32
  | nullable value => IsShort value
  | _ => True

instance (item : Item) : Decidable item.IsExpressible := by
  cases item <;> unfold IsExpressible <;> infer_instance

/-- Writes values one behind the other at the end of a buffer. -/
def writeAll (items : List Item) (buffer : Bytes) : Bytes :=
  items.foldl (fun buffer item => buffer ++ item.encode) buffer

/-- Reads values of the given kinds one behind the other. -/
def readAll : List ItemKind → Decoder (List Item)
  | [] => return []
  | kind :: kinds => return (← kind.decoder) :: (← readAll kinds)

variable {item : Item} {items : List Item}

theorem decoder_encode (h : item.IsExpressible) (rest : Bytes) :
    item.kind.decoder (item.encode ++ rest) = .ok (item, rest) := by
  cases item with
  | u8 n => exact bind_eq (u8_encodeU8 n rest) _
  | u16 n => exact bind_eq (u16_encodeU16 n rest) _
  | u32 n => exact bind_eq (u32_encodeU32 n rest) _
  | i32 n => exact bind_eq (i32_encodeI32 n rest) _
  | u64 n => exact bind_eq (u64_encodeU64 n rest) _
  | i64 n => exact bind_eq (i64_encodeI64 n rest) _
  | name content => exact bind_eq (name_encodeName h rest) _
  | counted bytes => exact bind_eq (counted_encodeCounted h rest) _
  | text content => exact bind_eq (text_encodeText h rest) _
  | nullable value => exact bind_eq (nullable_encodeNullable h rest) _

theorem refusesTorn_encode (h : item.IsExpressible) :
    RefusesTorn item.kind.decoder item.encode := by
  -- a number is read as its digits, and then made a number of its type
  have number (field : IntegerField) (n : Nat) :
      RefusesTorn (unsigned field) (Bytes.bigEndian field.width n) :=
    refusesTorn_unsigned (Bytes.length_bigEndian ..)
  cases item with
  | u8 n => exact (refusesTorn_u8 n).bind _
  | u16 n => exact ((number .u16 _).bind _).bind _
  | u32 n => exact ((number .u32 _).bind _).bind _
  | i32 n => exact ((number .i32 _).bind _).bind _
  | u64 n => exact ((number .u64 _).bind _).bind _
  | i64 n => exact ((number .i64 _).bind _).bind _
  | name content => exact ((refusesTorn_terminated (IsName.zero_notMem h)).bind _).bind _
  | counted bytes => exact (refusesTorn_counted h).bind _
  | text content => exact ((refusesTorn_counted h).bind _).bind _
  | nullable value => exact (refusesTorn_nullable h).bind _

/-! ### Lists of items -/

theorem writeAll_eq (items : List Item) (buffer : Bytes) :
    writeAll items buffer = buffer ++ items.flatMap encode := by
  induction items generalizing buffer with
  | nil => exact (List.append_nil buffer).symm
  | cons item items ih =>
    show writeAll items (buffer ++ item.encode) = _
    rw [ih, List.append_assoc, List.flatMap_cons]

theorem readAll_flatMap (h : ∀ item ∈ items, item.IsExpressible) (rest : Bytes) :
    readAll (items.map kind) (items.flatMap encode ++ rest) = .ok (items, rest) := by
  induction items with
  | nil => rfl
  | cons item items ih =>
    obtain ⟨first, others⟩ := List.forall_mem_cons.mp h
    rw [List.map_cons, readAll, List.flatMap_cons, List.append_assoc,
      bind_eq (decoder_encode first _), bind_eq (ih others)]
    rfl

theorem refusesTorn_readAll (h : ∀ item ∈ items, item.IsExpressible) :
    RefusesTorn (readAll (items.map kind)) (items.flatMap encode) := by
  induction items with
  | nil => exact refusesTorn_nil _
  | cons item items ih =>
    obtain ⟨first, others⟩ := List.forall_mem_cons.mp h
    rw [List.map_cons, readAll, List.flatMap_cons]
    exact ((refusesTorn_encode first).bind _).append
      (fun rest => bind_eq (decoder_encode first rest) _) ((ih others).bind _)

/-- Two lists of the same kinds are told apart by their bytes, whatever stands behind. -/
theorem flatMap_append_inj {others : List Item} (h : ∀ item ∈ items, item.IsExpressible)
    (h' : ∀ item ∈ others, item.IsExpressible) (kinds : others.map kind = items.map kind)
    {rest rest' : Bytes} (same : others.flatMap encode ++ rest = items.flatMap encode ++ rest') :
    others = items ∧ rest = rest' := by
  have read := readAll_flatMap h' rest
  rw [kinds, same, readAll_flatMap h rest'] at read
  obtain ⟨found, behind⟩ := Prod.mk.inj (Except.ok.inj read)
  exact ⟨found.symm, behind.symm⟩

/-! ### The headline -/

/-- **Values are read as they were written, and nothing is read from a part of
their bytes.**  Values that the format can express are written behind what is
in the buffer.  Read by the list of their kinds they are found again, and the
bytes behind them are left.  If any bytes are missing at the end, the reader
says so.  So no bytes begin with two lists of the same kinds. -/
theorem decodes_exactly_written (h : ∀ item ∈ items, item.IsExpressible) :
    let bytes := writeAll items []
    (∀ buffer, writeAll items buffer = buffer ++ bytes) ∧
    (∀ rest, readAll (items.map kind) (bytes ++ rest) = .ok (items, rest)) ∧
    (∀ front lost, bytes = front ++ lost → lost ≠ [] →
      ∃ fault, decoded (readAll (items.map kind)) front = .error (.wire fault) ∧
        (Error.wire fault).name = "Protocol" ∧ fault.TellsShortage) ∧
    ∀ others : List Item, (∀ item ∈ others, item.IsExpressible) →
      others.map kind = items.map kind → ∀ rest rest' : Bytes,
      writeAll others [] ++ rest = bytes ++ rest' → others = items ∧ rest = rest' := by
  have written (items : List Item) : writeAll items [] = items.flatMap encode :=
    writeAll_eq items []
  intro bytes
  rw [show bytes = items.flatMap encode from written items]
  refine ⟨writeAll_eq items, readAll_flatMap h, ?_, ?_⟩
  · intro front lost split torn
    obtain ⟨fault, short, failed⟩ := refusesTorn_readAll h front lost split torn
    refine ⟨fault, ?_, rfl, short⟩
    rw [decoded, failed]
  · intro others expressible kinds rest rest' same
    rw [written] at same
    exact flatMap_append_inj h expressible kinds same

/-- Values of all kinds, among them a name with a letter of two bytes, empty
ones and an absent one. -/
theorem decodes_exactly_written_mixed :
    let items : List Item :=
      [.u8 7, .u16 513, .u32 0, .i32 (-2), .u64 255, .i64 (-1), .name "jörg", .counted [0, 0],
        .text "", .nullable none, .nullable (some [])]
    let bytes := writeAll items []
    (∀ item ∈ items, item.IsExpressible) ∧
    (∀ buffer, writeAll items buffer = buffer ++ bytes) ∧
    (∀ rest, readAll (items.map kind) (bytes ++ rest) = .ok (items, rest)) ∧
    (∀ front lost, bytes = front ++ lost → lost ≠ [] →
      ∃ fault, decoded (readAll (items.map kind)) front = .error (.wire fault) ∧
        (Error.wire fault).name = "Protocol" ∧ fault.TellsShortage) ∧
    ∀ others : List Item, (∀ item ∈ others, item.IsExpressible) →
      others.map kind = items.map kind → ∀ rest rest' : Bytes,
      writeAll others [] ++ rest = bytes ++ rest' → others = items ∧ rest = rest' :=
  ⟨by decide, decodes_exactly_written (by decide)⟩

/-- A name that is torn off inside a letter is not read as a shorter one. -/
example : readAll [.name, .u8] [106, 195] = .error .noTerminator := rfl

end Item

end Wire

end ProxyClient
