/-
ProxyClient/Proofs/Wire/Layout.lean

What is written is read back.  For each kind of value that is written there
is one statement, about the value followed by any other bytes:

    decoder (encode value ++ rest) = .ok (value, rest)

so that the statement about a message follows from those about its fields,
in their order.  A row is read to the end of its payload, so nothing may
follow it.
-/
import ProxyClient.Cache.Header
import ProxyClient.Message.Rows

namespace ProxyClient

namespace Wire

variable {α β : Type}

/-- A decoder goes on behind the bytes that the one before it took. -/
theorem bind_eq {d : Decoder α} {bytes rest : Bytes} {a : α} (h : d bytes = .ok (a, rest))
    (f : α → Decoder β) : (d >>= f) bytes = f a rest := by
  show ((d bytes) >>= fun p => f p.1 p.2) = f a rest
  rw [h]
  rfl

/-- Behind a decoder that fails, none is asked. -/
theorem bind_error {d : Decoder α} {bytes : Bytes} {fault : WireFault} (h : d bytes = .error fault)
    (f : α → Decoder β) : (d >>= f) bytes = .error fault := by
  show ((d bytes) >>= fun p => f p.1 p.2) = .error fault
  rw [h]
  rfl

/-- What two decoders have read was read by one after the other. -/
theorem exists_of_bind_eq_ok {d : Decoder α} {f : α → Decoder β} {bytes : Bytes} {read : β × Bytes}
    (h : (d >>= f) bytes = .ok read) : ∃ a rest, d bytes = .ok (a, rest) ∧ f a rest = .ok read := by
  rcases first : d bytes with fault | ⟨a, rest⟩
  · rw [bind_error first f] at h
    contradiction
  · exact ⟨a, rest, rfl, (bind_eq first f).symm.trans h⟩

/-! ### Numbers -/

theorem unsigned_append (field : IntegerField) {digits : Bytes} (size : digits.length = field.width)
    (rest : Bytes) :
    unsigned field (digits ++ rest) = .ok (Bytes.ofBigEndian digits, rest) := by
  have long : ¬ (digits ++ rest).length < field.width := by
    rw [List.length_append]
    omega
  rw [unsigned]
  rw [if_neg long, List.take_left' size, List.drop_left' size]

/-- The digits of a number that was read stood in front. -/
theorem append_of_unsigned {field : IntegerField} {bytes rest : Bytes} {n : Nat}
    (h : unsigned field bytes = .ok (n, rest)) :
    ∃ digits, digits.length = field.width ∧ n = Bytes.ofBigEndian digits ∧
      bytes = digits ++ rest := by
  rw [unsigned] at h
  split at h
  · contradiction
  · next long =>
    obtain ⟨rfl, rfl⟩ := Prod.mk.inj (Except.ok.inj h)
    exact ⟨bytes.take field.width, List.length_take_of_le (Nat.le_of_not_lt long), rfl,
      (List.take_append_drop ..).symm⟩

/-- A number that fits its field is read, and made a number of its type. -/
theorem made_bigEndian (field : IntegerField) {n : Nat} (fits : n < 256 ^ field.width)
    (make : Nat → α) (rest : Bytes) :
    (do return make (← unsigned field) : Decoder α) (Bytes.bigEndian field.width n ++ rest) =
      .ok (make n, rest) := by
  have read := unsigned_append field (Bytes.length_bigEndian field.width n) rest
  rw [Bytes.ofBigEndian_bigEndian, Nat.mod_eq_of_lt fits] at read
  exact bind_eq read _

/-- The digits of a number that was made one of its type stood in front. -/
theorem bigEndian_of_made (field : IntegerField) {make : Nat → α} {a : α} {bytes rest : Bytes}
    (h : (do return make (← unsigned field) : Decoder α) bytes = .ok (a, rest)) :
    ∃ n < 256 ^ field.width, a = make n ∧ bytes = Bytes.bigEndian field.width n ++ rest := by
  obtain ⟨n, behind, read, made⟩ := exists_of_bind_eq_ok h
  obtain ⟨rfl, rfl⟩ := Prod.mk.inj (Except.ok.inj made)
  obtain ⟨digits, size, rfl, rfl⟩ := append_of_unsigned read
  have same := Bytes.bigEndian_ofBigEndian digits
  have few := Bytes.ofBigEndian_lt digits
  rw [size] at same few
  exact ⟨_, few, rfl, congrArg (· ++ behind) same.symm⟩

theorem u8_encodeU8 (n : UInt8) (rest : Bytes) : u8 (encodeU8 n ++ rest) = .ok (n, rest) := rfl

theorem u16_encodeU16 (n : UInt16) (rest : Bytes) :
    u16 (encodeU16 n ++ rest) = .ok (n, rest) := by
  have read := made_bigEndian .u16 n.toNat_lt UInt16.ofNat rest
  rw [UInt16.ofNat_toNat] at read
  exact read

/-- A number that was read stood in front. -/
theorem encodeU16_of_u16 {n : UInt16} {bytes rest : Bytes} (h : u16 bytes = .ok (n, rest)) :
    bytes = encodeU16 n ++ rest := by
  obtain ⟨number, fits, rfl, rfl⟩ := bigEndian_of_made .u16 h
  rw [encodeU16, UInt16.toNat_ofNat_of_lt' fits]
  rfl

theorem u32_encodeU32 (n : UInt32) (rest : Bytes) :
    u32 (encodeU32 n ++ rest) = .ok (n, rest) := by
  have read := made_bigEndian .u32 n.toNat_lt UInt32.ofNat rest
  rw [UInt32.ofNat_toNat] at read
  exact read

theorem i32_encodeI32 (n : Int32) (rest : Bytes) : i32 (encodeI32 n ++ rest) = .ok (n, rest) := by
  have read := made_bigEndian .i32 n.toUInt32.toNat_lt (fun n => (UInt32.ofNat n).toInt32) rest
  rw [UInt32.ofNat_toNat] at read
  exact read

theorem u64_encodeU64 (n : UInt64) (rest : Bytes) :
    u64 (encodeU64 n ++ rest) = .ok (n, rest) := by
  have read := made_bigEndian .u64 n.toNat_lt UInt64.ofNat rest
  rw [UInt64.ofNat_toNat] at read
  exact read

theorem i64_encodeI64 (n : Int64) (rest : Bytes) :
    i64 (encodeI64 n ++ rest) = .ok (n, rest) := by
  have read := made_bigEndian .i64 n.toUInt64.toNat_lt (fun n => (UInt64.ofNat n).toInt64) rest
  rw [UInt64.ofNat_toNat] at read
  exact read

theorem encodeI64_of_i64 {n : Int64} {bytes rest : Bytes} (h : i64 bytes = .ok (n, rest)) :
    bytes = encodeI64 n ++ rest := by
  obtain ⟨number, fits, rfl, rfl⟩ := bigEndian_of_made .i64 h
  rw [encodeI64, UInt64.toUInt64_toInt64, encodeU64, UInt64.toNat_ofNat_of_lt' fits]
  rfl

theorem take_append (front rest : Bytes) : take front.length (front ++ rest) = .ok (front, rest) := by
  have long : ¬ (front ++ rest).length < front.length := by
    rw [List.length_append]
    omega
  rw [take]
  rw [if_neg long, List.take_left' rfl, List.drop_left' rfl]

/-- Bytes that were taken stood in front. -/
theorem append_of_take {count : Nat} {bytes front rest : Bytes}
    (h : take count bytes = .ok (front, rest)) : front.length = count ∧ bytes = front ++ rest := by
  rw [take] at h
  split at h
  · contradiction
  · next long =>
    obtain ⟨rfl, rfl⟩ := Prod.mk.inj (Except.ok.inj h)
    exact ⟨List.length_take_of_le (Nat.le_of_not_lt long), (List.take_append_drop ..).symm⟩

/-! ### Names, texts and values -/

/-- A text without the zero character; it can be told from what follows it. -/
def IsName (text : String) : Prop :=
  '\x00' ∉ text.toList

instance (text : String) : Decidable (IsName text) := by
  unfold IsName; infer_instance

/-- The bytes of a name hold no zero. -/
theorem IsName.zero_notMem {text : String} (h : IsName text) : (0 : UInt8) ∉ Bytes.ofText text := by
  have single : '\x00'.toNat < 128 := by decide
  rw [Bytes.ofText_eq_flatMap]
  intro zero
  obtain ⟨c, member, encoded⟩ := List.mem_flatMap.mp zero
  rw [(Bytes.mem_utf8EncodeChar_iff single).mp encoded] at member
  exact h member

/-- Only the bytes of a name hold none. -/
theorem isName_of_zero_notMem {text : String} (h : (0 : UInt8) ∉ Bytes.ofText text) :
    IsName text := by
  intro member
  rw [Bytes.ofText_eq_flatMap] at h
  have single : '\x00'.toNat < 128 := by decide
  exact h (List.mem_flatMap.mpr ⟨'\x00', member, (Bytes.mem_utf8EncodeChar_iff single).mpr rfl⟩)

theorem terminated_encodeTerminated {bytes : Bytes} (h : (0 : UInt8) ∉ bytes) (rest : Bytes) :
    terminated (encodeTerminated bytes ++ rest) = .ok (bytes, rest) := by
  have nonzero : ∀ byte ∈ bytes, decide (byte ≠ 0) = true := by
    intro byte member
    exact decide_eq_true (ne_of_mem_of_not_mem member h)
  rw [terminated, encodeTerminated, List.append_assoc]
  rw [List.dropWhile_append_of_pos nonzero, List.takeWhile_append_of_pos nonzero]
  simp

theorem zero_notMem_of_terminated {bytes front rest : Bytes}
    (h : terminated bytes = .ok (front, rest)) : (0 : UInt8) ∉ front := by
  rw [terminated] at h
  split at h
  · obtain ⟨rfl, -⟩ := Prod.mk.inj (Except.ok.inj h)
    intro member
    simpa using List.all_eq_true.mp List.all_takeWhile 0 member
  · contradiction

theorem wellFormed_ofText (fault : WireFault) (text : String) (rest : Bytes) :
    wellFormed fault (Bytes.ofText text) rest = .ok (text, rest) := by
  rw [wellFormed, Bytes.toText?_ofText]

theorem name_encodeName {text : String} (h : IsName text) (rest : Bytes) :
    name (encodeName text ++ rest) = .ok (text, rest) := by
  rw [name, encodeName, bind_eq (terminated_encodeTerminated h.zero_notMem rest)]
  exact wellFormed_ofText .illFormedTerminated text rest

/-- What is read as a name is one. -/
theorem isName_of_name {bytes rest : Bytes} {text : String} (h : name bytes = .ok (text, rest)) :
    IsName text := by
  obtain ⟨front, behind, ended, formed⟩ := exists_of_bind_eq_ok h
  rw [wellFormed] at formed
  split at formed
  · next spelt =>
    obtain ⟨rfl, -⟩ := Prod.mk.inj (Except.ok.inj formed)
    refine isName_of_zero_notMem ?_
    rw [← Bytes.eq_ofText_of_toText? spelt]
    exact zero_notMem_of_terminated ended
  · contradiction

/-- Behind a length below `2 ^ 32` so many bytes are read. -/
theorem counted_bigEndian {count : Nat} (fits : count < 2 ^ 32) (rest : Bytes) :
    counted (Bytes.bigEndian 4 count ++ rest) = take count rest := by
  have told := u32_encodeU32 (UInt32.ofNat count) rest
  have same : (UInt32.ofNat count).toNat = count := UInt32.toNat_ofNat_of_lt' fits
  rw [encodeU32, same] at told
  rw [counted, bind_eq told, same]

theorem counted_encodeCounted {bytes : Bytes} (short : bytes.length < 2 ^ 32) (rest : Bytes) :
    counted (encodeCounted bytes ++ rest) = .ok (bytes, rest) := by
  rw [encodeCounted, List.append_assoc, counted_bigEndian short, take_append]

theorem text_encodeText {text : String} (short : (Bytes.ofText text).length < 2 ^ 32)
    (rest : Bytes) : Wire.text (encodeText text ++ rest) = .ok (text, rest) := by
  rw [Wire.text, encodeText, bind_eq (counted_encodeCounted short rest)]
  exact wellFormed_ofText .illFormedPrefixed text rest

/-- Four bytes are read as a signed number, whatever they are. -/
theorem i32_append {digits : Bytes} (four : digits.length = 4) (rest : Bytes) :
    i32 (digits ++ rest) = .ok (Int32.ofNat (Bytes.ofBigEndian digits), rest) := by
  rw [i32, bind_eq (unsigned_append .i32 four rest)]
  rfl

/-- A length from `2 ^ 31` on is negative, and stands for the absent value. -/
theorem nullable_of_negative {length : Bytes} (four : length.length = 4)
    (negative : 2 ^ 31 ≤ Bytes.ofBigEndian length) (rest : Bytes) :
    nullable (length ++ rest) = .ok (none, rest) := by
  have fits : Bytes.ofBigEndian length < 2 ^ 32 := by
    have few := Bytes.ofBigEndian_lt length
    rwa [four] at few
  have value : (Int32.ofNat (Bytes.ofBigEndian length)).toInt =
      (Bytes.ofBigEndian length : Int).bmod (2 ^ 32) := Int32.toInt_ofNat'
  have below : (Bytes.ofBigEndian length : Int).bmod (2 ^ 32) < 0 := by
    rw [Int.bmod]
    split <;> omega
  have sign : Int32.ofNat (Bytes.ofBigEndian length) < 0 := by
    rw [Int32.lt_iff_toInt_lt, value]
    exact below
  rw [nullable, bind_eq (i32_append four rest), if_pos sign]
  rfl

/-- A length below `2 ^ 31` is not negative. -/
theorem not_ofNat_lt_zero {count : Nat} (fits : count < 2 ^ 31) : ¬ Int32.ofNat count < 0 := by
  rw [Int32.lt_iff_toInt_lt, Int32.toInt_ofNat_of_lt fits]
  exact Int.not_lt.mpr (Int.natCast_nonneg _)

/-- Behind a length below `2 ^ 31` so many bytes are read. -/
theorem nullable_of_nonneg {length : Bytes} (four : length.length = 4)
    (fits : Bytes.ofBigEndian length < 2 ^ 31) (rest : Bytes) :
    nullable (length ++ rest) =
      (do return some (← take (Bytes.ofBigEndian length)) : Decoder (Option Bytes)) rest := by
  rw [nullable, bind_eq (i32_append four rest), if_neg (not_ofNat_lt_zero fits),
    Int32.toInt_ofNat_of_lt fits, Int.toNat_natCast]

/-- Four bytes tell a length below `2 ^ 31`. -/
theorem told_bigEndian {count : Nat} (fits : count < 2 ^ 31) :
    Bytes.ofBigEndian (Bytes.bigEndian 4 count) = count := by
  rw [Bytes.ofBigEndian_bigEndian]
  exact Nat.mod_eq_of_lt (Nat.lt_trans fits (by decide))

/-- A value is read behind its length. -/
theorem nullable_of_told {length bytes : Bytes} (four : length.length = 4)
    (told : Bytes.ofBigEndian length = bytes.length) (fits : bytes.length < 2 ^ 31)
    (rest : Bytes) : nullable (length ++ (bytes ++ rest)) = .ok (some bytes, rest) := by
  rw [nullable_of_nonneg four (told ▸ fits), told, bind_eq (take_append bytes rest)]
  rfl

/-- A length below `2 ^ 31` is not taken for the absent value. -/
theorem nullable_encodeNullable {value : Option Bytes}
    (short : ∀ bytes ∈ value, bytes.length < 2 ^ 31) (rest : Bytes) :
    nullable (encodeNullable value ++ rest) = .ok (value, rest) := by
  cases value with
  | none => exact nullable_of_negative (by decide) (by decide) rest
  | some bytes =>
    have fits : bytes.length < 2 ^ 31 := short bytes rfl
    rw [encodeNullable, encodeCounted, List.append_assoc]
    exact nullable_of_told (Bytes.length_bigEndian ..) (told_bigEndian fits) fits rest

end Wire

open Wire

/-! ### Messages of a result set -/

/-- Items that are written one after another are read one after another, each
as what it shows of itself. -/
theorem repeated_flatMap_map {α β : Type} {decoder : Decoder β} {encode : α → Bytes}
    {shown : α → β} {items : List α}
    (reads : ∀ item ∈ items, ∀ rest, decoder (encode item ++ rest) = .ok (shown item, rest))
    (rest : Bytes) :
    repeated decoder items.length (items.flatMap encode ++ rest) =
      .ok (items.map shown, rest) := by
  induction items with
  | nil => rfl
  | cons item items ih =>
    have first := reads item List.mem_cons_self (items.flatMap encode ++ rest)
    have others := ih fun other member => reads other (List.mem_cons_of_mem item member)
    rw [List.flatMap_cons, List.append_assoc, List.length_cons, repeated]
    rw [bind_eq first, bind_eq others]
    rfl

/-- Items are read one after another as they were written. -/
theorem repeated_flatMap {α : Type} {decoder : Decoder α} {encode : α → Bytes} {items : List α}
    (reads : ∀ item ∈ items, ∀ rest, decoder (encode item ++ rest) = .ok (item, rest))
    (rest : Bytes) :
    repeated decoder items.length (items.flatMap encode ++ rest) = .ok (items, rest) := by
  have read := @repeated_flatMap_map α α decoder encode id items reads rest
  rwa [List.map_id] at read

theorem ColumnDescription.guardLength_append {count : Nat} {fault : WireFault} {front : Bytes}
    (h : front.length = count) (rest : Bytes) :
    ColumnDescription.guardLength count fault (front ++ rest) = .ok ((), front ++ rest) := by
  have long : ¬ (front ++ rest).length < count := by
    rw [List.length_append]
    omega
  rw [ColumnDescription.guardLength, if_neg long]

theorem DescribeHead.length_encode (head : DescribeHead) : head.encode.length = 29 := by
  simp only [encode, List.length_append, encodeU16, encodeU64, encodeI64, encodeU8,
    Bytes.length_bigEndian]
  rfl

theorem DescribeHead.decoder_encode (head : DescribeHead) (rest : Bytes) :
    DescribeHead.decoder (head.encode ++ rest) = .ok (head, rest) := by
  rw [DescribeHead.decoder]
  rw [bind_eq (ColumnDescription.guardLength_append head.length_encode rest)]
  rw [DescribeHead.encode]
  simp only [List.append_assoc]
  rw [bind_eq (u16_encodeU16 head.id _), bind_eq (u64_encodeU64 head.firstRow _),
    bind_eq (i64_encodeI64 head.affectedRows _), bind_eq (i64_encodeI64 head.totalRows _),
    bind_eq (u8_encodeU8 head.hasColumns _), bind_eq (u16_encodeU16 head.columnCount _)]
  rfl

theorem Describe.payload_ofParts {head : DescribeHead} (noColumns : head.hasColumns = 0)
    (columns : List ColumnDescription) :
    (Describe.ofParts head columns).payload = head.encode := by
  show head.encode ++ (if head.hasColumns = 0 then [] else _) = _
  rw [if_pos noColumns, List.append_nil]

/-- A description without columns is read back with its bytes. -/
theorem Describe.decoder_ofParts {head : DescribeHead} (noColumns : head.hasColumns = 0)
    (columns : List ColumnDescription) :
    Describe.decoder (Describe.ofParts head columns).payload =
      .ok (Describe.ofParts head columns, []) := by
  have payload : (Describe.ofParts head columns).payload = head.encode ++ [] := by
    rw [payload_ofParts noColumns, List.append_nil]
  have read : Describe.fields (Describe.ofParts head columns).payload = .ok ((head, []), []) := by
    rw [Describe.fields]
    rw [payload, bind_eq (DescribeHead.decoder_encode head []), if_pos noColumns]
    rfl
  rw [Describe.decoder]
  rw [read]
  show Except.ok (⟨head, [], _⟩, []) = Except.ok (Describe.ofParts head columns, [])
  rw [Describe.ofParts]
  rw [if_pos noColumns]

theorem DataRow.decoder_payload (row : DataRow) : DataRow.decoder row.payload = .ok (row, []) := by
  rw [DataRow.decoder, DataRow.payload]
  rw [u16_encodeU16]
  rfl

theorem DataRow.decoded_payload (row : DataRow) : decoded DataRow.decoder row.payload = .ok row := by
  rw [decoded, DataRow.decoder_payload]

/-- **A row is kept as it was received**, whatever its values. -/
theorem DataRow.payload_of_decoded {payload : Bytes} {row : DataRow}
    (h : decoded DataRow.decoder payload = .ok row) : row.payload = payload := by
  rw [decoded, DataRow.decoder] at h
  rcases read : Wire.u16 payload with fault | ⟨count, data⟩
  · rw [read] at h
    contradiction
  · rw [read] at h
    obtain rfl := Except.ok.inj h
    exact (Wire.encodeU16_of_u16 read).symm

/-- So is a description. -/
theorem Describe.payload_of_decoded {payload : Bytes} {describe : Describe}
    (h : decoded Describe.decoder payload = .ok describe) : describe.payload = payload := by
  rw [decoded, Describe.decoder] at h
  rcases read : Describe.fields payload with fault | ⟨⟨head, columns⟩, rest⟩
  · rw [read] at h
    contradiction
  · rw [read] at h
    obtain rfl := Except.ok.inj h
    rfl

theorem BatchEnd.decoder_payload (batch : BatchEnd) (rest : Bytes) :
    BatchEnd.decoder (batch.payload ++ rest) = .ok (batch, rest) := by
  obtain ⟨ended, skipped⟩ := batch
  rw [BatchEnd.decoder, BatchEnd.payload]
  rw [List.append_assoc,
    bind_eq (show u8 (encodeFlag ended ++ _) = _ from u8_encodeU8 (if ended then 1 else 0) _),
    bind_eq (u64_encodeU64 skipped rest)]
  cases ended <;> rfl

/-! ### Headers of cache files -/

theorem CacheHeader.length_encode (header : CacheHeader) : header.encode.length = size := by
  simp only [encode, List.length_append, encodeU16, encodeI64, encodeU64, Bytes.length_bigEndian]
  decide

theorem CacheHeader.parse?_encode (header : CacheHeader) (rest : Bytes) :
    parse? (header.encode ++ rest) = some header := by
  have start : (11 : Nat) = magic.length := by decide
  rw [parse?, encode]
  simp only [List.append_assoc]
  rw [start, bind_eq (take_append magic _), bind_eq (u16_encodeU16 version _),
    bind_eq (i64_encodeI64 header.expiresAt rest)]
  show (if magic = magic ∧ version = version then some _ else none) = _
  rw [if_pos ⟨rfl, rfl⟩]

/-- A header that is read stands in front. -/
theorem CacheHeader.encode_of_parse? {bytes : Bytes} {header : CacheHeader}
    (h : parse? bytes = some header) : ∃ rest, bytes = header.encode ++ rest := by
  rw [parse?] at h
  split at h
  · next found foundVersion expiresAt _ read =>
    split at h
    · next known =>
      obtain rfl := Option.some.inj h
      -- the three fields, one behind the other
      obtain ⟨name, _, taken, behind⟩ := exists_of_bind_eq_ok read
      obtain ⟨number, _, told, last⟩ := exists_of_bind_eq_ok behind
      obtain ⟨time, left, expires, made⟩ := exists_of_bind_eq_ok last
      obtain ⟨fields, -⟩ := Prod.mk.inj (Except.ok.inj made)
      obtain ⟨name_eq, number_eq, time_eq⟩ : name = found ∧ number = foundVersion ∧
          time = expiresAt := by
        simpa using fields
      refine ⟨left, ?_⟩
      rw [(append_of_take taken).2, encodeU16_of_u16 told, encodeI64_of_i64 expires, encode,
        name_eq, number_eq, time_eq, known.1, known.2, List.append_assoc, List.append_assoc]
    · contradiction
  · contradiction

end ProxyClient
