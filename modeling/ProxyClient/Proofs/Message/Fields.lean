/-
ProxyClient/Proofs/Message/Fields.lean

What a server writes into a message, its client reads out of it.  A message
is written from fields: names and numbers, a list of columns, of output
variables or of values.  Most messages are the record of their fields.  A
description and a row are not: a description also remembers its bytes, and a
row is nothing but bytes, which are looked at when a value is asked for.  So
there are two things to say of fields that the format can express:

    ServerMessage.parse message.kind message.payload = .ok message
    message.Shows fields

where `message` is the message that is written from the fields.  The first
follows the layout of the message, field by field.  Each list is read by an
induction on its items, since an item ends where the next one begins.

Three things cannot be expressed: a name with a zero character in it, a list
with more items than its count of two bytes can tell, and a value whose
length would be read as a negative number.
-/
import ProxyClient.Message.Server
import ProxyClient.Proofs.Message.Values
import ProxyClient.Proofs.Wire.Stream

namespace ProxyClient

open Wire

/-! ### Fields -/

/-- The fields that a message is written from. -/
inductive ServerMessage.Fields where
  /-- Of the answer that a session is open. -/
  | sessionReady (ready : SessionReady)
  /-- Of an error. -/
  | error (report : ErrorReport)
  /-- A single text. -/
  | value (text : String)
  /-- The fixed part of a description, and the columns. -/
  | describe (head : DescribeHead) (columns : List ColumnDescription)
  /-- Output variables. -/
  | outputBinds (binds : List OutputBind)
  /-- The values of a row. -/
  | dataRow (values : List (Option Bytes))
  /-- Of the end of a batch. -/
  | batchEnd (batch : BatchEnd)
  /-- Of the answer that a session is parked. -/
  | suspended (suspension : Suspension)
  deriving DecidableEq, Repr

namespace ServerMessage

/-- The message that is written from fields. -/
def Fields.message : Fields → ServerMessage
  | sessionReady ready => .sessionReady ready
  | error report => .error report
  | value text => .value text
  | describe head columns => .describe (.ofParts head columns)
  | outputBinds binds => .outputBinds binds
  | dataRow values => .dataRow (.ofValues values)
  | batchEnd batch => .batchEnd batch
  | suspended suspension => .suspended suspension

/-- The format can express the fields. -/
def Fields.Expressible : Fields → Prop
  | sessionReady ready => IsName ready.serverName ∧ IsName ready.serverVersion
  | error _ => True
  | value text => IsName text
  | describe head columns =>
    columns.length = (if head.hasColumns = 0 then 0 else head.columnCount.toNat) ∧
      ∀ column ∈ columns, IsName column.name ∧ IsName column.typeName
  | outputBinds binds =>
    binds.length ≤ 65535 ∧ ∀ bind ∈ binds, IsName bind.name ∧ IsShort bind.value
  | dataRow values => values.length ≤ 65535 ∧ ∀ value ∈ values, IsShort value
  | batchEnd _ => True
  | suspended suspension => IsName suspension.host

instance (fields : Fields) : Decidable fields.Expressible := by
  cases fields <;> unfold Fields.Expressible <;> infer_instance

/-- The fields are what a client finds in the message. -/
def Shows : ServerMessage → Fields → Prop
  | .sessionReady ready, .sessionReady fields => ready = fields
  | .error report, .error fields => report = fields
  | .value text, .value field => text = field
  | .describe found, .describe head columns => found.head = head ∧ found.columns = columns
  | .outputBinds binds, .outputBinds fields => binds = fields
  | .dataRow row, .dataRow values =>
    row.columnCount.toNat = values.length ∧ row.values = values
  | .batchEnd batch, .batchEnd fields => batch = fields
  | .suspended suspension, .suspended fields => suspension = fields
  | _, _ => False

end ServerMessage

/-! ### Lists -/

theorem ColumnDescription.decoder_encode {column : ColumnDescription}
    (named : IsName column.name) (typed : IsName column.typeName) (rest : Bytes) :
    decoder (column.encode ++ rest) = .ok (column, rest) := by
  let tail := encodeU32 column.length ++ encodeU32 column.precision ++ encodeU32 column.scale ++
    encodeU8 column.flags
  have size : tail.length = 13 := by
    simp only [tail, List.length_append, encodeU32, encodeU8, Bytes.length_bigEndian]
    rfl
  have parts : column.encode ++ rest =
      encodeName column.name ++ (encodeName column.typeName ++ (tail ++ rest)) := by
    simp only [encode, tail, List.append_assoc]
  rw [decoder, parts]
  rw [bind_eq (name_encodeName named _), bind_eq (name_encodeName typed _),
    bind_eq (guardLength_append size rest)]
  simp only [tail, List.append_assoc]
  rw [bind_eq (u32_encodeU32 column.length _), bind_eq (u32_encodeU32 column.precision _),
    bind_eq (u32_encodeU32 column.scale _), bind_eq (u8_encodeU8 column.flags _)]
  rfl

theorem OutputBind.decoder_encode {bind : OutputBind} (named : IsName bind.name)
    (short : IsShort bind.value) (rest : Bytes) :
    decoder (bind.encode ++ rest) = .ok (bind, rest) := by
  have type : typeOfByte bind.type.toByte (encodeNullable bind.value ++ rest) =
      .ok (bind.type, encodeNullable bind.value ++ rest) := by
    rw [typeOfByte, ValueType.ofByte?_toByte]
  rw [decoder, encode]
  simp only [List.append_assoc]
  rw [bind_eq (name_encodeName named _), bind_eq (u8_encodeU8 bind.type.toByte _), bind_eq type,
    bind_eq (nullable_encodeNullable short rest)]
  rfl

/-! ### Messages -/

/-- A list is read after its count, each item as what it shows of itself. -/
theorem repeated_counted_map {α β : Type} {decoder : Decoder β} {encode : α → Bytes}
    {shown : α → β} {items : List α} (few : items.length ≤ 65535)
    (reads : ∀ item ∈ items, ∀ rest, decoder (encode item ++ rest) = .ok (shown item, rest))
    (rest : Bytes) :
    (do repeated decoder (← u16).toNat : Decoder (List β))
        (Bytes.bigEndian 2 items.length ++ items.flatMap encode ++ rest) =
      .ok (items.map shown, rest) := by
  have count := u16_encodeU16 (UInt16.ofNat items.length) (items.flatMap encode ++ rest)
  have length : (UInt16.ofNat items.length).toNat = items.length :=
    UInt16.toNat_ofNat_of_lt' (Nat.lt_succ_of_le few)
  rw [encodeU16, length] at count
  rw [List.append_assoc, bind_eq count, length]
  exact repeated_flatMap_map reads rest

/-- A list is read after its count. -/
theorem repeated_counted {α : Type} {decoder : Decoder α} {encode : α → Bytes} {items : List α}
    (few : items.length ≤ 65535)
    (reads : ∀ item ∈ items, ∀ rest, decoder (encode item ++ rest) = .ok (item, rest))
    (rest : Bytes) :
    (do repeated decoder (← u16).toNat : Decoder (List α))
        (Bytes.bigEndian 2 items.length ++ items.flatMap encode ++ rest) = .ok (items, rest) := by
  have read := @repeated_counted_map α α decoder encode id items few reads rest
  rwa [List.map_id] at read

theorem SessionReady.decoder_payload {ready : SessionReady} (named : IsName ready.serverName)
    (versioned : IsName ready.serverVersion) : decoder ready.payload = .ok (ready, []) := by
  rw [decoder, payload, ← List.append_nil (_ ++ encodeU8 _)]
  simp only [List.append_assoc]
  rw [bind_eq (name_encodeName named _), bind_eq (name_encodeName versioned _),
    bind_eq (u8_encodeU8 ready.flags [])]
  rfl

theorem ErrorReport.decoder_payload {report : ErrorReport}
    (short : (Bytes.ofText report.text).length < 2 ^ 32) :
    decoder report.payload = .ok (report, []) := by
  rw [decoder, payload, ← List.append_nil (_ ++ encodeText _)]
  simp only [List.append_assoc]
  rw [bind_eq (u8_encodeU8 report.kind.toByte _), bind_eq (i64_encodeI64 report.code _),
    bind_eq (text_encodeText short [])]
  show Except.ok ({ report with kind := ErrorKind.ofByte report.kind.toByte }, []) =
    Except.ok (report, [])
  rw [ErrorKind.ofByte_toByte]

theorem Suspension.decoder_payload {suspension : Suspension} (named : IsName suspension.host)
    (short : (Bytes.ofText suspension.token).length < 2 ^ 32) :
    decoder suspension.payload = .ok (suspension, []) := by
  rw [decoder, payload, ← List.append_nil (_ ++ encodeText _)]
  simp only [List.append_assoc]
  rw [bind_eq (name_encodeName named _), bind_eq (u16_encodeU16 suspension.port _),
    bind_eq (text_encodeText short [])]
  rfl

/-- A description is read back with its columns and its bytes. -/
theorem Describe.decoder_payload {head : DescribeHead} {columns : List ColumnDescription}
    (counted : columns.length = if head.hasColumns = 0 then 0 else head.columnCount.toNat)
    (named : ∀ column ∈ columns, IsName column.name ∧ IsName column.typeName) :
    decoder (ofParts head columns).payload = .ok (ofParts head columns, []) := by
  by_cases none : head.hasColumns = 0
  · exact decoder_ofParts none columns
  · rw [if_neg none] at counted
    have payload : (ofParts head columns).payload =
        head.encode ++ (columns.flatMap ColumnDescription.encode ++ []) := by
      show head.encode ++ (if head.hasColumns = 0 then [] else _) = _
      rw [if_neg none, List.append_nil]
    -- as many columns are read as the head announces
    have read : repeated ColumnDescription.decoder columns.length
        (columns.flatMap ColumnDescription.encode ++ []) = .ok (columns, []) :=
      repeated_flatMap (fun column member =>
        ColumnDescription.decoder_encode (named column member).1 (named column member).2) []
    rw [counted] at read
    have fields : fields (ofParts head columns).payload = .ok ((head, columns), []) := by
      rw [Describe.fields, payload, bind_eq (DescribeHead.decoder_encode head _), if_neg none]
      rw [bind_eq read]
      rfl
    rw [decoder, fields]
    show Except.ok (⟨head, columns, _⟩, []) = Except.ok (ofParts head columns, [])
    rw [ofParts, if_neg none]

/-- A counted text is shorter than the payload that it stands in. -/
theorem short_of_fits {frame : Frame} (fits : frame.Fits) {front : Bytes} {text : String}
    (h : frame.payload = front ++ encodeText text) : (Bytes.ofText text).length < 2 ^ 32 := by
  have length := congrArg List.length h
  simp only [List.length_append, encodeText, encodeCounted] at length
  simp only [Frame.Fits] at fits
  omega

/-! ### What is written is read -/

namespace ServerMessage

/-- The message that is written from fields shows them. -/
theorem Fields.message_shows {fields : Fields} (h : fields.Expressible) :
    fields.message.Shows fields := by
  cases fields with
  | sessionReady | error | value | outputBinds | batchEnd | suspended => exact Eq.refl _
  | describe head columns =>
    refine ⟨rfl, ?_⟩
    -- where the flag says that there are none, there are none
    show (if head.hasColumns = 0 then [] else columns) = columns
    split
    · next none =>
      have empty := h.1
      rw [if_pos none] at empty
      exact (List.length_eq_zero_iff.mp empty).symm
    · rfl
  | dataRow values =>
    exact ⟨UInt16.toNat_ofNat_of_lt' (Nat.lt_succ_of_le h.1), DataRow.valuesIn_flatMap h.2⟩

/-- The payload that is written from fields is read as the message. -/
theorem Fields.parse_payload {fields : Fields} (h : fields.Expressible)
    (fits : fields.message.frame.Fits) :
    parse fields.message.kind fields.message.payload = .ok fields.message := by
  -- one lemma for each kind of message, and nothing may be left behind it
  cases fields with
  | sessionReady ready =>
    have read := SessionReady.decoder_payload h.1 h.2
    simp only [message, kind, payload, parse, decoded, read, Except.map]
  | error report =>
    have read := ErrorReport.decoder_payload (short_of_fits fits rfl)
    simp only [message, kind, payload, parse, decoded, read, Except.map]
  | value text =>
    have read := name_encodeName h []
    rw [List.append_nil] at read
    simp only [message, kind, payload, parse, decoded, SingleValue.decoder, SingleValue.payload,
      read, Except.map]
  | describe head columns =>
    have read := Describe.decoder_payload h.1 h.2
    simp only [message, kind, payload, parse, decoded, read, Except.map]
  | outputBinds binds =>
    have read := repeated_counted h.1
      (fun bind member => OutputBind.decoder_encode (h.2 bind member).1 (h.2 bind member).2) []
    rw [List.append_nil] at read
    simp only [message, kind, payload, parse, decoded, OutputBinds.decoder, OutputBinds.payload,
      read, Except.map]
  | dataRow values =>
    have read := DataRow.decoder_payload (.ofValues values)
    simp only [message, kind, payload, parse, decoded, read, Except.map]
  | batchEnd batch =>
    have read := BatchEnd.decoder_payload batch []
    rw [List.append_nil] at read
    simp only [message, kind, payload, parse, decoded, read, Except.map]
  | suspended suspension =>
    have read := Suspension.decoder_payload h (short_of_fits fits rfl)
    simp only [message, kind, payload, parse, decoded, read, Except.map]

/-- Whatever fields the format can express, a client finds them in the frame
that a server writes from them: its type tells the kind of the message, its
payload is read as a message of that kind, and this message shows the
fields. -/
theorem shows_of_written (fields : Fields) (h : fields.Expressible)
    (fits : fields.message.frame.Fits) :
    ∃ kind message, Kind.ofByte? fields.message.frame.type = some kind ∧
      parse kind fields.message.frame.payload = .ok message ∧ message.Shows fields :=
  ⟨fields.message.kind, fields.message, Kind.ofByte?_toByte _, Fields.parse_payload h fits,
    Fields.message_shows h⟩

/-- A row in which a value is absent and another one is empty. -/
theorem shows_null_beside_empty :
    let fields := Fields.dataRow [some [55], none, some []]
    fields.Expressible ∧ fields.message.frame.Fits ∧
      ∃ kind message, Kind.ofByte? fields.message.frame.type = some kind ∧
        parse kind fields.message.frame.payload = .ok message ∧ message.Shows fields :=
  ⟨by decide, by decide, shows_of_written _ (by decide) (by decide)⟩

end ServerMessage

end ProxyClient
