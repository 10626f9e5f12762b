/-
ProxyClient/Proofs/Message/Statement.lean

What a server finds in the request to run a statement.  The payload holds
how the result set is to be sent, the text, and after a count of two bytes
the bind variables one after another:

    name 0  direction  type  value  capacity

No length stands in front of a value.  A reader takes it by the type that
was read before it, and takes nothing for an output variable, so a variable
whose type and value disagree would shift all that follow.  The calls that
bind variables keep them in agreement (`Bind.IsTagged`), whatever was bound
before, and so

    Execution.decoder payload = .ok (what was bound, [])

A statement with more variables than the count can tell is refused, and the
buffer stays as it was.
-/
import ProxyClient.Proofs.Message.Fields
import ProxyClient.Proofs.Message.Writing
import Mathlib.Data.List.Induction

namespace ProxyClient

open Wire

/-! ### Calls that bind -/

/-- A call that binds a variable. -/
inductive BindCall where
  /-- Binds an input variable to a value. -/
  | input (key : BindKey) (value : Value)
  /-- Binds an output variable of a type. -/
  | output (key : BindKey) (type : ValueType) (capacity : UInt32)

namespace BindCall

/-- The variable that is bound. -/
def entry : BindCall → Bind
  | input key value => ⟨key, value, .input, value.type, 0⟩
  | output key type capacity => ⟨key, .null, .output, type, capacity⟩

/-- The variables behind the call. -/
def apply (set : BindSet) : BindCall → BindSet
  | input key value => set.input key value
  | output key type capacity => set.output key type capacity

/-- The variables behind several calls. -/
def build (calls : List BindCall) : BindSet :=
  calls.foldl apply {}

theorem apply_eq (set : BindSet) (call : BindCall) : call.apply set = set.bind call.entry := by
  cases call <;> rfl

end BindCall

/-- The type tells how the value is laid out, and an output variable has none. -/
def Bind.IsTagged (entry : Bind) : Prop :=
  match entry.direction with
  | .input => entry.type = entry.value.type
  | .output => entry.value = .null

theorem BindCall.isTagged_entry (call : BindCall) : call.entry.IsTagged := by
  cases call <;> rfl

namespace BindSet

/-- Every variable was bound by a call as it stands. -/
theorem isTagged_apply {set : BindSet} (tagged : ∀ entry ∈ set.entries, entry.IsTagged)
    (call : BindCall) : ∀ entry ∈ (call.apply set).entries, entry.IsTagged := by
  intro entry member
  rw [call.apply_eq] at member
  rcases mem_replaceFirst member with rfl | old
  · exact call.isTagged_entry
  · exact tagged entry old

/-- However variables are bound, their types and values agree. -/
theorem isTagged_build (calls : List BindCall) :
    ∀ entry ∈ (BindCall.build calls).entries, entry.IsTagged := by
  have run : ∀ set : BindSet, (∀ entry ∈ set.entries, entry.IsTagged) →
      ∀ entry ∈ (calls.foldl BindCall.apply set).entries, entry.IsTagged := by
    induction calls with
    | nil => exact fun set tagged => tagged
    | cons call calls ih => exact fun set tagged => ih _ (isTagged_apply tagged call)
  exact run {} fun entry member => absurd member List.not_mem_nil

/-- Variables that share no placeholder stand in the order of their calls. -/
theorem build_of_pairwise {calls : List BindCall}
    (distinct : calls.Pairwise fun a b => a.entry.key.sameAs b.entry.key = false) :
    (BindCall.build calls).entries = calls.map BindCall.entry := by
  induction calls using List.reverseRecOn with
  | nil => rfl
  | append_singleton calls call ih =>
    obtain ⟨earlier, -, last⟩ := List.pairwise_append.mp distinct
    have built : (BindCall.build (calls ++ [call])).entries =
        ((BindCall.build calls).bind call.entry).entries := by
      rw [BindCall.build, List.foldl_append, ← call.apply_eq]
      rfl
    rw [built, bind, List.map_append, ← ih earlier]
    refine replaceFirst_of_none (fun entry member => decide_eq_false fun same => ?_) _
    rw [ih earlier] at member
    obtain ⟨other, known, rfl⟩ := List.mem_map.mp member
    have apart := last other known call (List.mem_singleton.mpr rfl)
    exact Bool.eq_false_iff.mp apart same.2

end BindSet

/-! ### What the format can express -/

/-- The name can be told from what follows it. -/
def BindKey.IsName : BindKey → Prop
  | name text => Wire.IsName text
  | position _ => True

instance (key : BindKey) : Decidable key.IsName := by
  cases key <;> unfold BindKey.IsName <;> infer_instance

/-- The length of the value can be told in four bytes. -/
def Value.IsShort : Value → Prop
  | string text | clob text => (Bytes.ofText text).length < 2 ^ 32
  | blob bytes => bytes.length < 2 ^ 32
  | null | integer _ | double .. => True

instance (value : Value) : Decidable value.IsShort := by
  cases value <;> unfold Value.IsShort <;> infer_instance

/-- The format can express a statement with these variables. -/
structure BindSet.IsExpressible (set : BindSet) (sql : String) : Prop where
  /-- There are no more than the count can tell. -/
  few : set.entries.length ≤ 65535
  /-- The length of the text can be told. -/
  short : (Bytes.ofText sql).length < 2 ^ 32
  /-- Every name can be told from what follows it. -/
  named : ∀ entry ∈ set.entries, entry.key.IsName
  /-- The length of every value can be told. -/
  valued : ∀ entry ∈ set.entries, entry.value.IsShort

theorem BindKey.IsName.wireName {key : BindKey} (h : key.IsName) : Wire.IsName key.wireName := by
  cases key with
  | name text => exact h
  | position n =>
    show '\x00' ∉ (String.ofList (Nat.toDigits 10 n.toNat)).toList
    rw [String.toList_ofList]
    intro zero
    exact absurd (Nat.isDigit_of_mem_toDigits (by decide) (by decide) zero) (by decide)

/-! ### Reading -/

/-- Reads a value of a type. -/
def Value.decoder : ValueType → Decoder Value
  | .null => return .null
  | .string => return .string (← Wire.text)
  | .integer => return .integer (← i64)
  | .double => do
    let bits ← u64
    let precision ← u32
    let scale ← u32
    return .double ⟨bits⟩ precision scale
  | .blob => return .blob (← counted)
  | .clob => return .clob (← Wire.text)

/-- Reads the value of a variable, which only an input variable has. -/
def Value.decoderFor (type : ValueType) : BindDirection → Decoder Value
  | .input => decoder type
  | .output => return .null

/-- The direction of a byte. -/
def directionOfByte (byte : UInt8) : Decoder BindDirection := fun bytes =>
  match BindDirection.ofByte? byte with
  | some direction => .ok (direction, bytes)
  | none => .error (.foreign "unknown direction")

/-- A bind variable as it is read. -/
structure BoundVariable where
  /-- The name or number of the placeholder. -/
  name : String
  /-- Which way the value travels. -/
  direction : BindDirection
  /-- The type of the value. -/
  type : ValueType
  /-- The value of an input variable; null for an output variable. -/
  value : Value
  /-- The most bytes that an output variable takes. -/
  capacity : UInt32
  deriving DecidableEq, Repr

namespace BoundVariable

/-- What is to be read of a bind variable. -/
def ofBind (entry : Bind) : BoundVariable :=
  ⟨entry.key.wireName, entry.direction, entry.type, entry.value, entry.capacity⟩

/-- Reads a bind variable. -/
def decoder : Decoder BoundVariable := do
  let name ← Wire.name
  let direction ← directionOfByte (← u8)
  let type ← OutputBind.typeOfByte (← u8)
  let value ← Value.decoderFor type direction
  let capacity ← u32
  return { name, direction, type, value, capacity }

/-- Reads the bind variables after their number. -/
def listDecoder : Decoder (List BoundVariable) := do
  repeated decoder (← u16).toNat

end BoundVariable

/-- A request to run a statement as it is read. -/
structure Execution where
  /-- How the result set is to be sent. -/
  options : ExecuteOptions
  /-- The text of the statement. -/
  sql : String
  /-- The bind variables in order. -/
  binds : List BoundVariable
  deriving DecidableEq, Repr

/-- Reads a request to run a statement. -/
def Execution.decoder : Decoder Execution := do
  let columnInfo ← u8
  let bufferSize ← u32
  let sql ← Wire.text
  let binds ← BoundVariable.listDecoder
  return { options := ⟨columnInfo ≠ 0, bufferSize⟩, sql, binds }

/-! ### What is written is read -/

theorem Value.decoder_encodeValue {value : Value} (short : value.IsShort) (rest : Bytes) :
    decoder value.type (Request.encodeValue value ++ rest) = .ok (value, rest) := by
  cases value with
  | null => rfl
  | string text | clob text =>
    rw [type, decoder, Request.encodeValue, bind_eq (text_encodeText short rest)]
    rfl
  | integer n =>
    rw [type, decoder, Request.encodeValue, bind_eq (i64_encodeI64 n rest)]
    rfl
  | double x precision scale =>
    rw [type, decoder, Request.encodeValue]
    simp only [List.append_assoc]
    rw [bind_eq (u64_encodeU64 x.bits _), bind_eq (u32_encodeU32 precision _),
      bind_eq (u32_encodeU32 scale rest)]
    rfl
  | blob bytes =>
    rw [type, decoder, Request.encodeValue, bind_eq (counted_encodeCounted short rest)]
    rfl

/-- The value of a variable is read if it is sent. -/
theorem Value.decoderFor_encodeBind {entry : Bind} (tagged : entry.IsTagged)
    (short : entry.value.IsShort) (rest : Bytes) :
    decoderFor entry.type entry.direction
        ((match entry.direction with
          | .input => Request.encodeValue entry.value
          | .output => []) ++ rest) = .ok (entry.value, rest) := by
  rw [Bind.IsTagged] at tagged
  cases directed : entry.direction with
  | input =>
    rw [directed] at tagged
    have same : entry.type = entry.value.type := tagged
    rw [same]
    exact decoder_encodeValue short rest
  | output =>
    rw [directed] at tagged
    have none : entry.value = .null := tagged
    rw [none]
    rfl

/-- A variable is read to its end and not beyond. -/
theorem BoundVariable.decoder_encodeBind {entry : Bind} (tagged : entry.IsTagged)
    (named : entry.key.IsName) (short : entry.value.IsShort) (rest : Bytes) :
    decoder (Request.encodeBind entry ++ rest) = .ok (ofBind entry, rest) := by
  have directed (rest : Bytes) :
      directionOfByte entry.direction.toByte rest = .ok (entry.direction, rest) := by
    rw [directionOfByte, BindDirection.ofByte?_toByte]
  have typed (rest : Bytes) :
      OutputBind.typeOfByte entry.type.toByte rest = .ok (entry.type, rest) := by
    rw [OutputBind.typeOfByte, ValueType.ofByte?_toByte]
  rw [decoder, Request.encodeBind]
  simp only [List.append_assoc]
  rw [bind_eq (name_encodeName named.wireName _), bind_eq (u8_encodeU8 _ _), bind_eq (directed _),
    bind_eq (u8_encodeU8 _ _), bind_eq (typed _)]
  refine (bind_eq (Value.decoderFor_encodeBind tagged short _) _).trans ?_
  rw [bind_eq (u32_encodeU32 entry.capacity rest)]
  rfl

/-- The payload of a statement. -/
def Request.executePayload (sql : String) (binds : List Bind) (options : ExecuteOptions) : Bytes :=
  encodeFlag options.columnInfo ++ encodeU32 options.bufferSize ++ encodeText sql ++
    Bytes.bigEndian 2 binds.length ++ binds.flatMap encodeBind

/-- What was bound is read to the last byte. -/
theorem Execution.decoder_executePayload {set : BindSet} {sql : String}
    (h : set.IsExpressible sql) (tagged : ∀ entry ∈ set.entries, entry.IsTagged)
    (options : ExecuteOptions) :
    decoder (Request.executePayload sql set.entries options) =
      .ok (⟨options, sql, set.entries.map .ofBind⟩, []) := by
  have listed := repeated_counted_map h.few (fun entry member =>
    BoundVariable.decoder_encodeBind (tagged entry member) (h.named entry member)
      (h.valued entry member)) []
  rw [List.append_nil] at listed
  rw [decoder, Request.executePayload]
  simp only [List.append_assoc]
  rw [bind_eq (show u8 (encodeFlag options.columnInfo ++ _) = _ from
      u8_encodeU8 (if options.columnInfo then 1 else 0) _),
    bind_eq (u32_encodeU32 options.bufferSize _), bind_eq (text_encodeText h.short _),
    bind_eq (show BoundVariable.listDecoder _ = _ from listed)]
  obtain ⟨columnInfo, bufferSize⟩ := options
  cases columnInfo <;> rfl

/-! ### Statements -/

/-- A statement is written behind what is in the buffer, as a frame whose length
counts itself and the payload. -/
theorem Request.write_execute {binds : List Bind} (few : binds.length ≤ 65535) (sql : String)
    (options : ExecuteOptions) (buffer : Bytes) :
    write (.execute sql binds options) buffer =
      (.ok (), buffer ++ ('Q'.toUInt8 ::
        (Bytes.bigEndian 4 ((executePayload sql binds options).length + 4) ++
          executePayload sql binds options))) := by
  rw [write, frame]
  rw [if_pos (Nat.lt_succ_of_le few)]
  show (Except.ok (), Frame.write ⟨'Q'.toUInt8, executePayload sql binds options⟩ buffer) = _
  rw [Frame.write_eq, Frame.encode_cons]

/-- **A statement is read as it was bound**: after any calls that bind its
variables, if the format can express them, the payload that is written is read
to its end, and gives how the result set is to be sent, the text, and every
variable with its name, direction, type, value and capacity, in order.  With
more variables than the count can tell the request is refused, and the buffer
is as it was. -/
theorem Request.execute_decodes (calls : List BindCall) (sql : String)
    (options : ExecuteOptions) (buffer : Bytes) :
    let set := BindCall.build calls
    (set.IsExpressible sql → ∃ payload,
      write (.execute sql set.entries options) buffer =
        (.ok (), buffer ++
          ('Q'.toUInt8 :: (Bytes.bigEndian 4 (payload.length + 4) ++ payload))) ∧
      Execution.decoder payload = .ok (⟨options, sql, set.entries.map .ofBind⟩, [])) ∧
    (65535 < set.entries.length →
      write (.execute sql set.entries options) buffer =
        (.error (.usage (.tooManyBinds set.entries.length)), buffer)) := by
  intro set
  refine ⟨fun expressible => ⟨executePayload sql set.entries options, ?_, ?_⟩, fun many => ?_⟩
  · exact write_execute expressible.few sql options buffer
  · exact Execution.decoder_executePayload expressible (BindSet.isTagged_build calls) options
  · rw [write, frame]
    rw [if_neg (by omega)]

/-- A call for each position. -/
def BindCall.positions : List BindCall :=
  (List.range 65536).map fun n => .input (.position (UInt16.ofNat n)) .null

theorem BindSet.length_build_positions :
    (BindCall.build BindCall.positions).entries.length = 65536 := by
  have distinct : BindCall.positions.Pairwise fun a b => a.entry.key.sameAs b.entry.key = false := by
    refine List.pairwise_map.mpr (List.nodup_range.imp_of_mem fun {a b} inA inB other => ?_)
    have sizes := (⟨List.mem_range.mp inA, List.mem_range.mp inB⟩ : a < 65536 ∧ b < 65536)
    refine beq_eq_false_iff_ne.mpr fun same => other ?_
    have values := congrArg UInt16.toNat same
    rwa [UInt16.toNat_ofNat_of_lt' sizes.1, UInt16.toNat_ofNat_of_lt' sizes.2] at values
  rw [build_of_pairwise distinct, List.length_map, BindCall.positions, List.length_map,
    List.length_range]

/-- A procedure with a variable that is bound again and one that is returned;
and a variable for each position, which are too many. -/
theorem Request.execute_decodes_procedure :
    (let set := BindCall.build
      [.input (.name "n") (.string "forty-two"), .output (.name "out") .string 100,
        .input (.position 1) (.double ⟨0x8000000000000000⟩ 5 2), .input (.name "n") (.integer 42)]
     set.IsExpressible "call p(:n, :out, ?)" ∧ ∃ payload,
       write (.execute "call p(:n, :out, ?)" set.entries ⟨true, 2⟩) [7] =
         (.ok (), [7] ++
           ('Q'.toUInt8 :: (Bytes.bigEndian 4 (payload.length + 4) ++ payload))) ∧
       Execution.decoder payload =
         .ok (⟨⟨true, 2⟩, "call p(:n, :out, ?)", set.entries.map .ofBind⟩, [])) ∧
    (let set := BindCall.build BindCall.positions
     65535 < set.entries.length ∧
       write (.execute "select" set.entries ⟨true, 2⟩) [7] =
         (.error (.usage (.tooManyBinds set.entries.length)), [7])) := by
  have expressible : BindSet.IsExpressible (BindCall.build
      [.input (.name "n") (.string "forty-two"), .output (.name "out") .string 100,
        .input (.position 1) (.double ⟨0x8000000000000000⟩ 5 2), .input (.name "n") (.integer 42)])
      "call p(:n, :out, ?)" :=
    ⟨by decide, by decide, by decide, by decide⟩
  have many : 65535 < (BindCall.build BindCall.positions).entries.length := by
    rw [BindSet.length_build_positions]
    decide
  exact ⟨⟨expressible, (execute_decodes _ _ ⟨true, 2⟩ [7]).1 expressible⟩,
    many, (execute_decodes _ "select" ⟨true, 2⟩ [7]).2 many⟩

end ProxyClient
