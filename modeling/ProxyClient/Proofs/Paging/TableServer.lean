/-
ProxyClient/Proofs/Paging/TableServer.lean

A server that can be run: it keeps one result set, reads the requests that
concern it, and answers over every link.  What it still can send may be
bounded, and then the answer that exceeds the bound is cut off there.

Without a bound it is a `PagingServer` and a `ResumableServer`, and with any
bound a `LossyServer`, whatever the result set.
-/
import ProxyClient.Proofs.Paging.Server

namespace ProxyClient

/-- A server with one result set. -/
structure TableServer where
  /-- The result set. -/
  store : RowStore
  /-- Where it stands, once the statement was run. -/
  position : Option Nat := none
  /-- The number of bytes that it can still send; none for no bound. -/
  budget : Option Nat := none

namespace TableServer

/-! ### Requests -/

/-- What a server can be asked. -/
inductive Asked where
  /-- To run the statement. -/
  | execute (options : ExecuteOptions)
  /-- To skip rows and send some. -/
  | fetch (skip : UInt64) (limit : UInt32)
  /-- To describe the result set and send some rows. -/
  | attach (options : ExecuteOptions)
  /-- To park the session. -/
  | park
  /-- To open the session again. -/
  | reclaim
  /-- Anything else. -/
  | other
  deriving DecidableEq, Repr

open Wire

/-- How the result set is to be sent. -/
def optionsDecoder : Decoder ExecuteOptions := do
  let columnInfo ← u8
  let bufferSize ← u32
  return ⟨columnInfo ≠ 0, bufferSize⟩

/-- The number of rows to skip and of those to send. -/
def fetchDecoder : Decoder (UInt64 × UInt32) := do
  let _ ← u16
  let skip ← u64
  let limit ← u32
  return (skip, limit)

/-- How the result set with an identifier is to be sent. -/
def attachDecoder : Decoder ExecuteOptions := do
  let _ ← u16
  optionsDecoder

/-- Reads a request. -/
def asked (bytes : Bytes) : Asked :=
  let payload := bytes.drop Frame.headerLength
  match bytes.head? with
  | none => .other
  | some type =>
    if type = 'Q'.toUInt8 then
      match optionsDecoder payload with
      | .ok (options, _) => .execute options
      | .error _ => .other
    else if type = 'F'.toUInt8 then
      match fetchDecoder payload with
      | .ok ((skip, limit), _) => .fetch skip limit
      | .error _ => .other
    else if type = 'R'.toUInt8 then
      match attachDecoder payload with
      | .ok (options, _) => .attach options
      | .error _ => .other
    else if type = 'Z'.toUInt8 then .park
    else if type = 'r'.toUInt8 then .reclaim
    else .other

theorem head?_encode (frame : Frame) : frame.encode.head? = some frame.type := rfl

theorem drop_encode (frame : Frame) : frame.encode.drop Frame.headerLength = frame.payload := by
  rw [Frame.encode_cons]
  show (Bytes.bigEndian 4 (frame.payload.length + 4) ++ frame.payload).drop 4 = _
  exact List.drop_left' (Bytes.length_bigEndian ..)

theorem optionsDecoder_encode (options : ExecuteOptions) (rest : Bytes) :
    optionsDecoder (encodeFlag options.columnInfo ++ (encodeU32 options.bufferSize ++ rest)) =
      .ok (options, rest) := by
  obtain ⟨columnInfo, bufferSize⟩ := options
  rw [optionsDecoder]
  rw [bind_eq (show u8 (encodeFlag columnInfo ++ _) = _ from
    u8_encodeU8 (if columnInfo then 1 else 0) _), bind_eq (u32_encodeU32 bufferSize rest)]
  cases columnInfo <;> rfl

theorem asked_execute {sql : String} {binds : List Bind} {options : ExecuteOptions} {bytes : Bytes}
    (written : (Request.execute sql binds options).encode = .ok bytes) :
    asked bytes = .execute options := by
  rw [Request.encode, Request.frame] at written
  split at written
  · obtain rfl := Except.ok.inj written
    rw [asked]
    rw [head?_encode, drop_encode]
    simp only [List.append_assoc, optionsDecoder_encode]
    rfl
  · contradiction

theorem asked_fetch {id : ResultSetId} {skip : UInt64} {limit : UInt32} {bytes : Bytes}
    (written : (Request.fetch id skip limit).encode = .ok bytes) :
    asked bytes = .fetch skip limit := by
  obtain rfl := Except.ok.inj written
  have read : fetchDecoder (encodeU16 id ++ (encodeU64 skip ++ (encodeU32 limit ++ []))) =
      .ok ((skip, limit), []) := by
    rw [fetchDecoder]
    rw [bind_eq (u16_encodeU16 id _), bind_eq (u64_encodeU64 skip _),
      bind_eq (u32_encodeU32 limit [])]
    rfl
  rw [asked]
  rw [head?_encode, drop_encode]
  rw [List.append_nil, ← List.append_assoc] at read
  simp only [read]
  rfl

theorem asked_resumeResultSet {id : ResultSetId} {options : ExecuteOptions} {bytes : Bytes}
    (written : (Request.resumeResultSet id options).encode = .ok bytes) :
    asked bytes = .attach options := by
  obtain rfl := Except.ok.inj written
  have read : attachDecoder
      (encodeU16 id ++ (encodeFlag options.columnInfo ++ (encodeU32 options.bufferSize ++ []))) =
      .ok (options, []) := by
    rw [attachDecoder]
    rw [bind_eq (u16_encodeU16 id _)]
    exact optionsDecoder_encode options []
  rw [asked]
  rw [head?_encode, drop_encode]
  rw [List.append_nil, ← List.append_assoc] at read
  simp only [read]
  rfl

/-! ### Answers -/

/-- The frame that tells that the session is parked. -/
def parkedFrame : Frame :=
  ⟨ServerMessage.Kind.suspended.toByte, Suspension.payload ⟨"", 1, "t"⟩⟩

/-- The frame that tells that the session is open. -/
def readyFrame : Frame :=
  ⟨ServerMessage.Kind.sessionReady.toByte, SessionReady.payload ⟨"", "", 1⟩⟩

/-- The answer of a server that stands at some row, and where it stands then. -/
def answer (store : RowStore) (position : Option Nat) : Asked → Bytes × Option Nat
  | .execute options =>
    let batch := Batch.documented store.rows.length 0 0 options.bufferSize
    (RowEvent.encodeAll (store.opened options batch), some (batch.next 0))
  | .fetch skip limit =>
    match position with
    | none => ([], none)
    | some p =>
      let batch := Batch.documented store.rows.length p skip limit
      (RowEvent.encodeAll (store.fetched p batch), some (batch.next p))
  | .attach options =>
    match position with
    | none => ([], none)
    | some p =>
      let batch := Batch.documented store.rows.length p 0 options.bufferSize
      (RowEvent.encodeAll (store.attached options p batch), some (batch.next p))
  | .park => (parkedFrame.encode, position)
  | .reclaim => (readyFrame.encode, position)
  | .other => ([], position)

/-- Answers a request with as many bytes as can still be sent. -/
def send (server : TableServer) (_ : LinkId) (bytes : Bytes) : SendResult × TableServer :=
  let (reply, position) := answer server.store server.position (asked bytes)
  match server.budget with
  | none => (.accepted reply false, { server with position })
  | some left =>
    (.accepted (reply.take left) false,
      { server with position, budget := some (left - reply.length) })

instance : Network TableServer where
  dial server _ := (some 0, server)
  send := send

section

variable {server : TableServer} {link : LinkId} {request : Request} {reply : Bytes}
  {position : Option Nat} {question : Asked}

/-- What becomes of a request that is read and answered. -/
theorem send_eq {bytes : Bytes} (reads : asked bytes = question)
    (answers : answer server.store server.position question = (reply, position)) :
    Network.send server link bytes =
      match server.budget with
      | none => (.accepted reply false, { server with position })
      | some left =>
        (.accepted (reply.take left) false,
          { server with position, budget := some (left - reply.length) }) := by
  show send server link bytes = _
  rw [send]
  rw [reads, answers]

/-- Without a bound the whole answer arrives. -/
theorem delivers (unbounded : server.budget = none)
    (reads : ∀ bytes, request.encode = .ok bytes → asked bytes = question)
    (answers : answer server.store server.position question = (reply, position)) :
    Network.Delivers server link request reply (· = ⟨server.store, position, none⟩) := by
  obtain ⟨store, start, budget⟩ := server
  obtain rfl : budget = none := unbounded
  intro bytes written
  rw [send_eq (reads bytes written) answers]
  exact ⟨false, rfl, rfl⟩

/-- With a bound it may be cut off. -/
theorem delivers_or_loses
    (reads : ∀ bytes, request.encode = .ok bytes → asked bytes = question)
    (answers : answer server.store server.position question = (reply, position)) :
    Network.Delivers server link request reply
        (fun after => after.store = server.store ∧ after.position = position) ∨
      Network.Loses server link request reply := by
  rcases bound : server.budget with - | left
  · -- a link without a bound
    refine .inl ((delivers bound reads answers).imp ?_)
    rintro after rfl
    exact ⟨rfl, rfl⟩
  · rcases Nat.lt_or_ge left reply.length with short | enough
    · -- the reply is cut off where the bound is reached
      refine .inr fun bytes written => .inr ⟨reply.take left, reply.drop left, false,
        (List.take_append_drop left reply).symm, ?_, ?_⟩
      · intro nothing
        have length := congrArg List.length nothing
        rw [List.length_drop, List.length_nil] at length
        omega
      · rw [send_eq (reads bytes written) answers, bound]
    · -- it is just let through
      refine .inl fun bytes written => ⟨false, ?_⟩
      rw [send_eq (reads bytes written) answers, bound]
      refine ⟨?_, rfl, rfl⟩
      show SendResult.accepted (reply.take left) false = _
      rw [List.take_of_length_le enough]

end

/-! ### Promises -/

/-- The server stands at a row of a given result set. -/
structure IsAt (store : RowStore) (position : Option Nat) (server : TableServer) : Prop where
  /-- It keeps the result set. -/
  store_eq : server.store = store
  /-- It stands at the row. -/
  position_eq : server.position = position
  /-- There is such a row, or the last is in front of it. -/
  le : ∀ p, position = some p → p ≤ store.rows.length

/-- So does a server without a bound. -/
structure IsFreeAt (store : RowStore) (position : Option Nat) (server : TableServer) : Prop
    extends IsAt store position server where
  /-- It can send anything. -/
  budget_eq : server.budget = none

section

variable (store : RowStore) (sql : String) (binds : List Bind) (link : LinkId)

theorem le_of_documented {position : Nat} (h : position ≤ store.rows.length) (skip : UInt64)
    (limit : UInt32) (p : Nat)
    (e : some ((Batch.documented store.rows.length position skip limit).next position) = some p) :
    p ≤ store.rows.length := by
  rw [← Option.some.inj e]
  exact (Batch.documented_within h skip limit).next_le

/-- **Whatever its bound, the server is one that may be lost.** -/
theorem lossyServer : LossyServer store sql binds link (IsAt store) where
  executes := by
    rintro ⟨store, _, budget⟩ ⟨rfl, rfl, -⟩ options
    have within := Batch.documented_within (Nat.zero_le store.rows.length) 0 options.bufferSize
    refine ⟨_, within, ?_⟩
    refine (delivers_or_loses (fun _ written => asked_execute written) rfl).imp_left fun all =>
      all.imp ?_
    rintro after ⟨rfl, position_eq⟩
    exact ⟨rfl, position_eq, le_of_documented _ (Nat.zero_le _) _ _⟩
  fetches := by
    rintro ⟨store, _, budget⟩ position ⟨rfl, rfl, le⟩ skip limit
    have within := Batch.documented_within (le position rfl) skip limit
    refine ⟨_, within, ?_⟩
    refine (delivers_or_loses (fun _ written => asked_fetch written) rfl).imp_left fun all =>
      all.imp ?_
    rintro after ⟨rfl, position_eq⟩
    exact ⟨rfl, position_eq, le_of_documented _ (le position rfl) _ _⟩

/-- **Without a bound the server answers as documented.** -/
theorem pagingServer : PagingServer store sql binds link (IsFreeAt store) where
  bounded := fun at_ => at_.le _ rfl
  executes := by
    rintro ⟨store, _, budget⟩ ⟨⟨rfl, rfl, -⟩, rfl⟩ options
    refine (delivers rfl (fun _ written => asked_execute written) rfl).imp ?_
    rintro after rfl
    exact ⟨⟨rfl, rfl, le_of_documented _ (Nat.zero_le _) _ _⟩, rfl⟩
  fetches := by
    rintro ⟨store, _, budget⟩ position ⟨⟨rfl, rfl, le⟩, rfl⟩ skip limit
    refine (delivers rfl (fun _ written => asked_fetch written) rfl).imp ?_
    rintro after rfl
    exact ⟨⟨rfl, rfl, le_of_documented _ (le position rfl) _ _⟩, rfl⟩

/-- **And it keeps its place** for a client that leaves, if its descriptions tell it. -/
theorem resumableServer
    (describes : ∀ options, ∀ position ≤ store.rows.length,
      (store.describe options position).head.firstRow.toNat = position) :
    ResumableServer store sql binds (fun _ => IsFreeAt store)
      (fun position => IsFreeAt store (some position)) where
  pages := pagingServer store sql binds
  describes := describes
  attaches := by
    rintro ⟨store, _, budget⟩ link position ⟨⟨rfl, rfl, le⟩, rfl⟩ options
    refine (delivers rfl (fun _ written => asked_resumeResultSet written) rfl).imp ?_
    rintro after rfl
    exact ⟨⟨rfl, rfl, le_of_documented _ (le position rfl) _ _⟩, rfl⟩
  parks := by
    rintro ⟨store, _, budget⟩ link position ⟨⟨rfl, rfl, le⟩, rfl⟩ bytes written
    obtain rfl := Except.ok.inj written
    exact ⟨parkedFrame, false, by decide, rfl, fun _ => ⟨⟨rfl, rfl, le⟩, rfl⟩⟩
  dials := fun at_ _ => at_
  reclaims := by
    rintro ⟨store, _, budget⟩ position ⟨⟨rfl, rfl, le⟩, rfl⟩ link token bytes written
    obtain rfl := Except.ok.inj written
    exact ⟨readyFrame, false, by decide, rfl, fun _ => ⟨⟨rfl, rfl, le⟩, rfl⟩⟩

end

/-! ### Cursors -/

/-- A cursor on a session with the server. -/
def cursor (server : TableServer) (disk : Disk) : Cursor TableServer :=
  let connection : Connection :=
    { transport := some { link := 0 }, endpoint := ⟨"h", 1⟩, options := {}, serverName := ""
      serverVersion := "", autocommit := true, transaction := .idle }
  Cursor.onSession ⟨connection, ⟨server, []⟩⟩ disk 0

theorem ready_cursor (server : TableServer) (disk : Disk) : (server.cursor disk).session.Ready 0 :=
  ⟨rfl, {}, rfl, rfl⟩

end TableServer

/-! ### Plain result sets -/

/-- A result set that is described without its columns. -/
def RowStore.plain (id : ResultSetId) (rows : List DataRow) (fit : ∀ row ∈ rows, row.frame.Fits) :
    RowStore where
  id := id
  rows := rows
  describe := fun _ first => Describe.ofParts ⟨id, UInt64.ofNat first, -1, -1, 0, 1⟩ []
  outputs := []
  row_fits := fit
  describe_legible := fun _ _ => RowEvent.legible_ofParts rfl []
  describe_id := fun _ _ => rfl
  describe_zero := fun _ => rfl
  outputs_legible := by
    intro binds mem
    contradiction

theorem RowStore.describes_plain {id : ResultSetId} {rows : List DataRow}
    {fit : ∀ row ∈ rows, row.frame.Fits} (few : rows.length < 2 ^ 64) (options : ExecuteOptions)
    (position : Nat) (h : position ≤ rows.length) :
    ((RowStore.plain id rows fit).describe options position).head.firstRow.toNat = position := by
  show (UInt64.ofNat position).toNat = position
  rw [UInt64.toNat_ofNat', Nat.mod_eq_of_lt (Nat.lt_of_le_of_lt h few)]

/-- A row with one text. -/
def DataRow.ofText (text : String) : DataRow :=
  DataRow.ofValues [some (Bytes.ofText text)]

/-- Five rows. -/
def fiveRows : List DataRow :=
  ["r0", "r1", "r2", "r3", "r4"].map DataRow.ofText

/-- A result set of them. -/
def fiveRowStore : RowStore :=
  RowStore.plain 7 fiveRows (by decide +kernel)

end ProxyClient
