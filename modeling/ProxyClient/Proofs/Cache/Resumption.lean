/-
ProxyClient/Proofs/Cache/Resumption.lean

A result set that is collected in a file over several stays at the server.  A
cursor runs a statement and records its rows; it may leave the result set, or
its session may be parked, and it or another cursor attaches and continues the
file.  A session may be reclaimed by another connection while the cursor is
still there, which then stays beside and may come back.  `Cursor.Collects`
lists what may happen, one step at a time.

Between two stays the file rests on the disk, and the server keeps the place
up to which its rows were recorded (`Recording.Stands`).  Every step keeps
file and server together, and closing the cursor completes the file
(`Cursor.collects_exactly`).
-/
import ProxyClient.Proofs.Cache.Collecting
import ProxyClient.Proofs.Session.Parking

namespace ProxyClient

variable {ν : Type} [Network ν]

/-! ### What may happen -/

/-- Where a result set is that is collected. -/
inductive Stage where
  /-- A cursor reads it, and records what it reads. -/
  | taken
  /-- It was left to the server. -/
  | left
  /-- So it was, and the session is parked. -/
  | parked
  deriving DecidableEq, Repr

/-- Where it is once its page is given up. -/
def Stage.leave : Stage → Stage
  | parked => parked
  | _ => left

namespace Cursor

/-- What may become of a cursor that runs its statement and collects the result
set `id` in the file at `path`, and which cursors there are beside it on
connections of their own.  What it had open before is closed first, and then
it is as `start`. -/
inductive Collects (start : Cursor ν) (id : ResultSetId) (path : String) :
    Stage → List (Cursor ν) → Cursor ν → Prop
  /-- The statement is run. -/
  | executes {former opened : Cursor ν} (clears : former.Clears start)
      (ran : former.execute = .ok () opened) : Collects start id path .taken [] opened
  /-- A row is read in any way, wherever it is. -/
  | reads {stage : Stage} {others : List (Cursor ν)} {cursor : Cursor ν} {α : Type}
      (run : Collects start id path stage others cursor) (row : Nat) (look : ResultSet → α) :
      Collects start id path stage others (Cursor.reading row look cursor).2
  /-- Settings are changed, of which some concern the next page. -/
  | sets {stage : Stage} {others : List (Cursor ν)} {cursor : Cursor ν}
      (run : Collects start id path stage others cursor) (settings : Cursor ν) :
      Collects start id path stage others (cursor.withSettings settings)
  /-- The cursor leaves the result set. -/
  | leaves {stage : Stage} {others : List (Cursor ν)} {cursor : Cursor ν}
      (run : Collects start id path stage others cursor) :
      Collects start id path stage.leave others cursor.suspendResultSet
  /-- The session is parked under the cursor. -/
  | parks {stage : Stage} {others : List (Cursor ν)} {cursor after : Cursor ν}
      {token : SuspendToken} (run : Collects start id path stage others cursor)
      (suspended : cursor.withSession Session.suspend = .ok token after) :
      Collects start id path .parked others after
  /-- The connection goes on with the session. -/
  | resumes {others : List (Cursor ν)} {cursor after : Cursor ν} {token : SuspendToken}
      (run : Collects start id path .parked others cursor)
      (resumed : cursor.withSession (Session.resume token) = .ok () after) :
      Collects start id path .left others after
  /-- The cursor is let go of, and there is another on its session. -/
  | moves {stage : Stage} {others : List (Cursor ν)} {cursor other : Cursor ν}
      (run : Collects start id path stage others cursor) (away : stage ≠ .taken)
      (idle : other.IsIdle) (same : (other.session, other.disk) = cursor.release) :
      Collects start id path stage others other
  /-- Its connection is let go of too, and another one reclaims the session. -/
  | reclaims {others : List (Cursor ν)} {cursor other : Cursor ν} {connection : Connection}
      {options : Options} {token : SuspendToken} (run : Collects start id path .parked others cursor)
      (idle : other.IsIdle)
      (reclaimed : Session.reclaim options token cursor.release.1.release =
        .ok connection other.session.traffic)
      (there : other.session.connection =
        { connection with epoch := other.session.connection.epoch })
      (same : other.disk = cursor.release.2) : Collects start id path .left others other
  /-- Another connection reclaims the session, and the cursor stays where it is. -/
  | joins {others : List (Cursor ν)} {cursor other : Cursor ν} {connection : Connection}
      {options : Options} {token : SuspendToken} (run : Collects start id path .parked others cursor)
      (idle : other.IsIdle)
      (reclaimed : Session.reclaim options token cursor.session.traffic =
        .ok connection other.session.traffic)
      (there : other.session.connection =
        { connection with epoch := other.session.connection.epoch })
      (same : other.disk = cursor.disk) : Collects start id path .left (cursor :: others) other
  /-- A cursor that stayed does something. -/
  | idles {stage : Stage} {front back : List (Cursor ν)} {cursor other after : Cursor ν}
      (run : Collects start id path stage (front ++ other :: back) cursor)
      (idles : (other.finding cursor.disk cursor.session.traffic).Idles after) :
      Collects start id path stage (front ++ after :: back)
        (cursor.finding after.disk after.session.traffic)
  /-- It is let go of, and so is its connection. -/
  | drops {stage : Stage} {front back : List (Cursor ν)} {cursor other : Cursor ν}
      {session : Session ν} {disk : Disk}
      (run : Collects start id path stage (front ++ other :: back) cursor)
      (released : (other.finding cursor.disk cursor.session.traffic).release = (session, disk)) :
      Collects start id path stage (front ++ back) (cursor.finding disk session.release)
  /-- It is the one that goes on, when the session is parked again. -/
  | returns {front back : List (Cursor ν)} {cursor other : Cursor ν}
      (run : Collects start id path .parked (front ++ other :: back) cursor) :
      Collects start id path .parked (front ++ cursor :: back)
        (other.finding cursor.disk cursor.session.traffic)
  /-- The cursor attaches, and continues the file. -/
  | attaches {others : List (Cursor ν)} {cursor after : Cursor ν}
      (run : Collects start id path .left others cursor)
      (attached : cursor.resumeCached id path = .ok () after) :
      Collects start id path .taken others after

omit [Network ν] in
theorem withSession_ok {α : Type} {action : Session ν → Outcome α (Session ν)} {a : α}
    {cursor after : Cursor ν} (h : cursor.withSession action = .ok a after) :
    ∃ session, action cursor.session = .ok a session ∧ after = { cursor with session } :=
  Outcome.exists_of_mapState_eq_ok h

end Cursor

/-! ### What holds at each stage -/

/-- File and server are together: the rows in front of the server's place are
in the file. -/
inductive Recording.Stands (r : Recording) (stands : LinkId → Option Nat → ν → Prop)
    (parked : Nat → ν → Prop) : Stage → Cursor ν → Prop
  /-- A cursor that reads has a recorder. -/
  | taken {cursor : Cursor ν} {link : LinkId} (taken : r.IsTaken link (stands link) cursor) :
      Stands r stands parked .taken cursor
  /-- Of a result set that was left the file rests. -/
  | left {cursor : Cursor ν} {link : LinkId} {position : Nat} {ended : Bool}
      (left : cursor.IsLeft) (flushed : cursor.IsFlushed)
      (rests : r.RestsOn position ended cursor.disk) (ready : cursor.session.Ready link)
      (at_ : stands link (some position) cursor.session.traffic.network) :
      Stands r stands parked .left cursor
  /-- So it does of one in a session that is parked. -/
  | parked {cursor : Cursor ν} {position : Nat} {ended : Bool} (beside : cursor.IsBeside)
      (rests : r.RestsOn position ended cursor.disk)
      (kept : parked position cursor.session.traffic.network) :
      Stands r stands parked .parked cursor

namespace Recording.Stands

variable {r : Recording} {sql : String} {binds : List Bind}
  {stands : LinkId → Option Nat → ν → Prop} {parked : Nat → ν → Prop}
  {stage : Stage} {cursor after other : Cursor ν} {token : SuspendToken}

omit [Network ν] in
theorem isLeft (h : r.Stands stands parked stage cursor) (away : stage ≠ .taken) :
    cursor.IsLeft := by
  cases h with
  | taken taken => exact absurd rfl away
  | left left => exact left
  | parked beside => exact beside.left

omit [Network ν] in
/-- A cursor that is away may close its recorder. -/
theorem of_detaches (h : r.Stands stands parked stage cursor) (away : stage ≠ .taken)
    (left : after.IsLeft) (detaches : cursor.Detaches after) :
    r.Stands stands parked stage after := by
  cases h with
  | taken taken => exact absurd rfl away
  | left _ flushed rests ready at_ =>
    rw [← flushed.disk_detachRecorder, ← detaches.disk_eq] at rests
    rw [← detaches.session_eq] at ready at_
    exact .left left (Cursor.isFlushed_of_none detaches.recorder_eq) rests ready at_
  | parked beside rests kept =>
    obtain ⟨beside', disk_eq, traffic_eq⟩ := beside.of_detaches left detaches
    rw [← disk_eq] at rests
    rw [← traffic_eq] at kept
    exact .parked beside' rests kept

theorem ensureRow (server : ResumableServer r.store sql binds stands parked)
    (h : r.Stands stands parked stage cursor) (row : Nat) :
    r.Stands stands parked stage (cursor.ensureRow row) := by
  by_cases here : stage = .taken
  · subst here
    cases h with
    | taken taken => exact .taken (taken.ensureRow (server.pages _) row)
  · have left := h.isLeft here
    rw [left.ensureRow_eq]
    exact h.of_detaches here left.checkEpoch left.detaches_checkEpoch

omit [Network ν] in
theorem withSettings (h : r.Stands stands parked stage cursor) (settings : Cursor ν) :
    r.Stands stands parked stage (cursor.withSettings settings) := by
  cases h with
  | taken taken =>
    obtain ⟨⟨live, ready, epoch_eq, stands, id_eq, present, -, first_le, shows, complete⟩, held,
      flushed⟩ := taken
    exact .taken ⟨⟨live, ready, epoch_eq, stands, id_eq, present, rfl, first_le, shows, complete⟩,
      held, flushed⟩
  | left left flushed rests ready at_ =>
    exact .left ⟨left.source_eq, left.given_up⟩ flushed rests ready at_
  | parked beside rests kept =>
    exact .parked ⟨⟨beside.left.source_eq, beside.left.given_up⟩, beside.isParked, beside.flushed⟩
      rests kept

omit [Network ν] in
theorem suspendResultSet (h : r.Stands stands parked stage cursor) :
    r.Stands stands parked stage.leave cursor.suspendResultSet := by
  have left := cursor.isLeft_suspendResultSet
  have detaches := cursor.detaches_suspendResultSet
  -- only a cursor that has taken the result set has something to give up
  by_cases here : stage = .taken
  · subst here
    cases h with
    | taken taken =>
      have rests := taken.rests
      have ready := taken.inStep.ready
      have at_ := taken.inStep.stands
      rw [← taken.flushed.disk_detachRecorder, ← detaches.disk_eq] at rests
      rw [← detaches.session_eq] at ready at_
      exact .left left (Cursor.isFlushed_of_none detaches.recorder_eq) rests ready at_
  · have same : stage.leave = stage := by
      cases stage with
      | taken => exact absurd rfl here
      | left => rfl
      | parked => rfl
    rw [same]
    exact h.of_detaches here left detaches

/-- Parking the session takes the result set from its cursor. -/
theorem suspend (server : ResumableServer r.store sql binds stands parked)
    (h : r.Stands stands parked stage cursor)
    (suspended : cursor.withSession Session.suspend = .ok token after) :
    r.Stands stands parked .parked after := by
  obtain ⟨session, asked, rfl⟩ := Cursor.withSession_ok suspended
  cases h with
  | taken taken =>
    have inStep := taken.inStep
    obtain ⟨isParked, later, kept⟩ := server.suspend inStep.ready inStep.stands asked
    -- the recorder stays open, but the epoch tells that the page is out of date
    refine .parked ⟨⟨inStep.live, .inr ⟨?_, inStep.present, ?_⟩⟩, isParked, taken.flushed⟩
      taken.rests kept
    · rw [inStep.id_eq]
      rfl
    · show cursor.epoch < session.connection.epoch
      rw [later, inStep.epoch_eq]
      exact Nat.lt_succ_self _
  | left left flushed rests ready at_ =>
    obtain ⟨isParked, later, kept⟩ := server.suspend ready at_ asked
    refine .parked ⟨left.withSession ?_, isParked, flushed⟩ rests kept
    rw [later]
    exact Nat.le_succ _
  | parked beside rests kept =>
    exact absurd asked (beside.isParked.suspend_ne_ok token)

/-- Going on with the session does not bring it back. -/
theorem resume (server : ResumableServer r.store sql binds stands parked)
    (h : r.Stands stands parked .parked cursor)
    (resumed : cursor.withSession (Session.resume token) = .ok () after) :
    r.Stands stands parked .left after := by
  obtain ⟨session, asked, rfl⟩ := Cursor.withSession_ok resumed
  cases h with
  | parked beside rests kept =>
    obtain ⟨link, ready, later, at_⟩ := server.resume kept asked
    refine .left (beside.left.withSession ?_) beside.flushed rests ready at_
    rw [later]
    exact Nat.le_succ _

/-- Another cursor on the session finds it as it was left. -/
theorem release (h : r.Stands stands parked stage cursor) (away : stage ≠ .taken)
    (idle : other.IsIdle) (same : (other.session, other.disk) = cursor.release) :
    r.Stands stands parked stage other :=
  h.of_detaches away idle.isLeft ((h.isLeft away).detaches_of_release idle same)

/-- So does a cursor on a connection that reclaims the session, of whatever epoch. -/
theorem reclaim (server : ResumableServer r.store sql binds stands parked)
    (h : r.Stands stands parked .parked cursor) (idle : other.IsIdle) {connection : Connection}
    {options : Options}
    (reclaimed : Session.reclaim options token cursor.session.traffic =
      .ok connection other.session.traffic)
    (there : other.session.connection = { connection with epoch := other.session.connection.epoch })
    (same : other.disk = cursor.disk) : r.Stands stands parked .left other := by
  cases h with
  | parked beside rests kept =>
    obtain ⟨link, ready, at_⟩ := server.reclaim kept reclaimed
    have ready' : other.session.Ready link := by
      have session_eq : other.session = ⟨{ connection with epoch := other.session.connection.epoch },
          other.session.traffic⟩ := by
        rw [← there]
      rw [session_eq]
      exact ready _
    rw [← same] at rests
    exact .left idle.isLeft (Cursor.isFlushed_of_none idle.recorder_eq) rests ready' at_

/-- Attaching takes the result set again. -/
theorem attach (server : ResumableServer r.store sql binds stands parked)
    (h : r.Stands stands parked .left cursor)
    (attached : cursor.resumeCached r.store.id r.path = .ok () after) :
    r.Stands stands parked .taken after := by
  cases h with
  | left left flushed rests ready at_ =>
    obtain ⟨after', attached', taken⟩ := IsTaken.attach server left flushed ready at_ rests
    obtain ⟨-, rfl⟩ := EStateM.Result.ok.inj (attached'.symm.trans attached)
    exact .taken taken

omit [Network ν] in
/-- A cursor that is parked gives its turn to another one. -/
theorem turn (h : r.Stands stands parked .parked cursor) (beside : other.IsBeside) :
    r.Stands stands parked .parked (other.finding cursor.disk cursor.session.traffic) ∧
      cursor.IsBeside := by
  cases h with
  | parked beside' rests kept => exact ⟨.parked (beside.finding _ _) rests kept, beside'⟩

end Recording.Stands

/-! ### Runs -/

section

variable {store : RowStore} {path : String} {stands : LinkId → Option Nat → ν → Prop}
  {parked : Nat → ν → Prop} {link : LinkId} {start cursor : Cursor ν} {others : List (Cursor ν)}

/-- File and server are together throughout a run, and no cursor that stayed
behind does them harm. -/
theorem Cursor.Collects.isKept
    (server : ResumableServer store (start.substitutions.expand start.sql) start.binds.entries stands
      parked)
    (prepared : start.IsPrepared) (target : start.cacheTarget = some path)
    (sound : start.disk.IsSound) (ready : start.session.Ready link)
    (fresh : stands link none start.session.traffic.network) {stage : Stage}
    (run : start.Collects store.id path stage others cursor) :
    (start.recording store path).Stands stands parked stage cursor ∧
      ∀ other ∈ others, other.IsBeside := by
  -- the induction is on the steps of the run; every step is one of the lemmas above
  induction run with
  | executes clears ran =>
    obtain ⟨opened, ran', taken⟩ :=
      Recording.IsTaken.execute (server.pages link) prepared target sound ready fresh
    obtain ⟨-, rfl⟩ := EStateM.Result.ok.inj (ran'.symm.trans (clears.execute_eq.symm.trans ran))
    refine ⟨.taken taken, ?_⟩
    intro other mem
    contradiction
  | reads run row look ih => exact ⟨Recording.Stands.ensureRow server ih.1 row, ih.2⟩
  | sets run settings ih => exact ⟨ih.1.withSettings settings, ih.2⟩
  | leaves run ih => exact ⟨ih.1.suspendResultSet, ih.2⟩
  | parks run suspended ih => exact ⟨Recording.Stands.suspend server ih.1 suspended, ih.2⟩
  | resumes run resumed ih => exact ⟨Recording.Stands.resume server ih.1 resumed, ih.2⟩
  | moves run away idle same ih => exact ⟨ih.1.release away idle same, ih.2⟩
  | reclaims run idle reclaimed there same ih =>
    obtain ⟨kept, others⟩ := ih
    cases kept with
    | parked beside rests kept =>
      obtain ⟨disk_eq, traffic_eq⟩ := beside.release_eq
      rw [traffic_eq] at reclaimed
      rw [disk_eq] at same
      exact ⟨Recording.Stands.reclaim server (.parked beside rests kept) idle reclaimed there same,
        others⟩
  | joins run idle reclaimed there same ih =>
    obtain ⟨kept, others⟩ := ih
    refine ⟨Recording.Stands.reclaim server kept idle reclaimed there same, ?_⟩
    intro other mem
    rcases List.mem_cons.mp mem with rfl | mem
    · cases kept with
      | parked beside => exact beside
    · exact others other mem
  | idles run idles ih =>
    -- disk and network are the same behind it, so the one that reads is where it was
    obtain ⟨kept, others⟩ := ih
    rw [List.forall_mem_append, List.forall_mem_cons] at others ⊢
    obtain ⟨inFront, beside, behind⟩ := others
    obtain ⟨beside', disk_eq, traffic_eq⟩ := (beside.finding _ _).idles idles
    refine ⟨?_, inFront, beside', behind⟩
    rw [disk_eq, traffic_eq]
    exact kept
  | @drops stage front back cursor other session disk run released ih =>
    obtain ⟨kept, others⟩ := ih
    rw [List.forall_mem_append, List.forall_mem_cons] at others
    obtain ⟨inFront, beside, behind⟩ := others
    obtain ⟨disk_eq, traffic_eq⟩ : disk = cursor.disk ∧ session.release = cursor.session.traffic := by
      have unchanged := (beside.finding cursor.disk cursor.session.traffic).release_eq
      rw [released] at unchanged
      exact unchanged
    refine ⟨?_, List.forall_mem_append.mpr ⟨inFront, behind⟩⟩
    rw [disk_eq, traffic_eq]
    exact kept
  | returns run ih =>
    obtain ⟨kept, others⟩ := ih
    rw [List.forall_mem_append, List.forall_mem_cons] at others ⊢
    obtain ⟨inFront, beside, behind⟩ := others
    obtain ⟨kept', beside'⟩ := kept.turn beside
    exact ⟨kept', inFront, beside', behind⟩
  | attaches run attached ih => exact ⟨Recording.Stands.attach server ih.1 attached, ih.2⟩

/-- **A file collects every row exactly once.**  A prepared cursor runs its
statement on a server that keeps its place, and records the rows into a file.
Whatever is read, left, parked and attached to after that, by this cursor and
by others, closing the one that reads succeeds, and so does letting go of it;
the file is then the header, the first description, the rows as they were
sent, and one end frame.  So it stays when the others are let go of. -/
theorem Cursor.collects_exactly
    (server : ResumableServer store (start.substitutions.expand start.sql) start.binds.entries stands
      parked)
    (prepared : start.IsPrepared) (target : start.cacheTarget = some path)
    (sound : start.disk.IsSound) (ready : start.session.Ready link)
    (fresh : stands link none start.session.traffic.network)
    (run : start.Collects store.id path .taken others cursor) :
    ∃ closed : Cursor ν, cursor.close = .ok () closed ∧
      cursor.release = (closed.session, closed.disk) ∧
      (∀ other ∈ others, ∀ traffic, (other.finding closed.disk traffic).release.2 = closed.disk) ∧
      ∃ id, closed.disk.openFile path = .ok id ∧
        closed.disk.bytesOf id =
          CacheHeader.encode ⟨CacheHeader.expiryAfter (CacheHeader.timeOn start.now) start.cacheTtl⟩ ++
            (store.describe start.executeOptions 0).frame.encode ++
            store.rows.flatMap (fun row => row.frame.encode) ++ CacheWriter.endFrame.encode := by
  obtain ⟨kept, beside⟩ := run.isKept server prepared target sound ready fresh
  cases kept with
  | taken taken =>
    obtain ⟨closed, ran, id, found, bytes⟩ := taken.close (server.pages _)
    refine ⟨closed, ran, ?_, ?_, id, found, ?_⟩
    · rw [Cursor.release, ran]
      rfl
    · intro other mem traffic
      exact ((beside other mem).finding closed.disk traffic).release_eq.1
    · rw [bytes, Recording.image]
      show CacheWriter.recorded _ _ (store.rows.take store.rows.length) ++ _ = _
      rw [List.take_length]
      rfl

end

namespace TableServer

/-- The cursor after the statement and a read of the fourth row, when it has left
the result set and attached again. -/
def attachedCursor : Cursor TableServer :=
  ((pagingCursor.execute.state.row 3).2.suspendResultSet.resumeCached 7 "rows").state

/-- It again, when the session is parked. -/
def parkedCursor : Cursor TableServer :=
  (attachedCursor.withSession Session.suspend).state

/-- A cursor on another connection, which reclaims the session. -/
def reclaimingCursor : Cursor TableServer :=
  match Session.reclaim {} ⟨"h", 1, "t"⟩ parkedCursor.session.traffic with
  | .ok connection traffic => Cursor.onSession ⟨connection, traffic⟩ parkedCursor.disk 0
  | .error _ _ => parkedCursor

/-- It again, when it has attached. -/
def collectingCursor : Cursor TableServer :=
  (reclaimingCursor.resumeCached 7 "rows").state

theorem collects_attachedCursor : pagingCursor.Collects 7 "rows" .taken [] attachedCursor := by
  obtain ⟨⟨⟩, ran⟩ := Outcome.exists_eq_ok
    (show pagingCursor.execute.toExcept.toBool = true by decide +kernel)
  obtain ⟨⟨⟩, attached⟩ := Outcome.exists_eq_ok
    (show ((pagingCursor.execute.state.row 3).2.suspendResultSet.resumeCached 7
      "rows").toExcept.toBool = true by decide +kernel)
  have read : pagingCursor.Collects 7 "rows" .taken [] (pagingCursor.execute.state.row 3).2 :=
    .reads (.executes isPrepared_pagingCursor.clears ran) 3 (·.rowTexts 3)
  exact .attaches read.leaves attached

theorem collects_collectingCursor :
    pagingCursor.Collects 7 "rows" .taken [parkedCursor] collectingCursor := by
  obtain ⟨token, suspended⟩ := Outcome.exists_eq_ok
    (show (attachedCursor.withSession Session.suspend).toExcept.toBool = true by decide +kernel)
  obtain ⟨connection, reclaimed⟩ := Outcome.exists_eq_ok
    (show (Session.reclaim {} ⟨"h", 1, "t"⟩ parkedCursor.session.traffic).toExcept.toBool = true by
      decide +kernel)
  obtain ⟨⟨⟩, attached⟩ := Outcome.exists_eq_ok
    (show (reclaimingCursor.resumeCached 7 "rows").toExcept.toBool = true by decide +kernel)
  have joined : pagingCursor.Collects 7 "rows" .left [parkedCursor] reclaimingCursor := by
    rw [reclaimingCursor, reclaimed]
    exact .joins (.parks collects_attachedCursor suspended) (Cursor.isIdle_onSession ..) reclaimed
      rfl rfl
  exact .attaches joined attached

/-- What is known of the file that this cursor writes, with the former one beside it. -/
theorem collects_exactly_collectingCursor :
    pagingCursor.Collects 7 "rows" .taken [parkedCursor] collectingCursor ∧
      ∃ closed : Cursor TableServer, collectingCursor.close = .ok () closed ∧
        collectingCursor.release = (closed.session, closed.disk) ∧
        (∀ other ∈ [parkedCursor], ∀ traffic,
          (other.finding closed.disk traffic).release.2 = closed.disk) ∧
        ∃ id, closed.disk.openFile "rows" = .ok id ∧
          closed.disk.bytesOf id =
            CacheHeader.encode ⟨CacheHeader.expiryAfter (CacheHeader.timeOn pagingCursor.now)
                pagingCursor.cacheTtl⟩ ++
              (fiveRowStore.describe pagingCursor.executeOptions 0).frame.encode ++
              fiveRows.flatMap (fun row => row.frame.encode) ++ CacheWriter.endFrame.encode := by
  have server : ResumableServer fiveRowStore (Substitutions.expand {} "") []
      (fun _ => IsFreeAt fiveRowStore) (fun position => IsFreeAt fiveRowStore (some position)) :=
    resumableServer fiveRowStore _ [] (RowStore.describes_plain (by decide +kernel))
  exact ⟨collects_collectingCursor, Cursor.collects_exactly server isPrepared_pagingCursor rfl
    Disk.isSound_empty (ready_cursor _ {}) isFreeAt_pagingCursor collects_collectingCursor⟩

end TableServer

end ProxyClient
