/-
ProxyClient/Proofs/Cursor/Standing.lean

What a connection tells of its session is its history.  Of the milestones since
the connection was made (`Cursor.milestones`) each counts until a later one of
its kind:

    greeted …  toggled off  …  executed  …  settled  …  toggled on  …
    autocommit: as the latest `greeted` or `toggled` has it
    in a transaction: if the latest `greeted` or `settled` says so, or an
      `executed` behind it while autocommit was off

Milestones are what succeeded, so what fails leaves no trace in it.
-/
import ProxyClient.Proofs.Cursor.Deeds

namespace ProxyClient

/-! ### Histories -/

namespace Milestone

/-- The mode that it sets. -/
def mode? : Milestone → Option Bool
  | greeted _ ready => some ready.autocommit
  | toggled on => some on
  | settled | executed | parked => none

/-- The mode that was set last. -/
def lastMode? (history : List Milestone) : Option Bool :=
  (history.filterMap mode?).getLast?

/-- A transaction that was open before is not open after it. -/
def resets : Milestone → Bool
  | greeted _ _ | settled => true
  | toggled _ | executed | parked => false

/-- A greeting that tells of an open transaction. -/
def announces : Milestone → Bool
  | greeted _ ready => ready.transaction = .inTransaction
  | settled | toggled _ | executed | parked => false

/-- Since the latest greeting, commit or rollback a transaction was opened. -/
def IsOpen (history : List Milestone) : Prop :=
  ∃ before reset since, history = before ++ reset :: since ∧ reset.resets = true ∧
    (∀ milestone ∈ since, milestone.resets = false) ∧
      (reset.announces = true ∨ ∃ front back, since = front ++ executed :: back ∧
        lastMode? (before ++ reset :: front) = some false)

variable {history : List Milestone} {milestone : Milestone}

theorem lastMode?_concat (history : List Milestone) (milestone : Milestone) :
    lastMode? (history ++ [milestone]) = milestone.mode?.or (lastMode? history) := by
  rw [lastMode?, List.filterMap_append, List.getLast?_append, lastMode?]
  cases milestone <;> rfl

/-- The last of some milestones is the one in the middle, or one behind it. -/
theorem cases_of_concat_eq {before since : List Milestone} {middle : Milestone}
    (split : history ++ [milestone] = before ++ middle :: since) :
    (since = [] ∧ history = before ∧ milestone = middle) ∨
      ∃ since', since = since' ++ [milestone] ∧ history = before ++ middle :: since' := by
  rcases since.eq_nil_or_concat with rfl | ⟨since', last, rfl⟩
  · obtain ⟨same, lasts⟩ := List.append_inj' split rfl
    exact .inl ⟨rfl, same, List.singleton_inj.mp lasts⟩
  · rw [List.concat_eq_append, ← List.cons_append, ← List.append_assoc] at split
    obtain ⟨same, lasts⟩ := List.append_inj' split rfl
    obtain rfl := List.singleton_inj.mp lasts
    exact .inr ⟨since', List.concat_eq_append, same⟩

/-- Some milestone is the latest that resets, if any does. -/
theorem exists_latest (some_ : ∃ milestone ∈ history, milestone.resets = true) :
    ∃ before reset since, history = before ++ reset :: since ∧ reset.resets = true ∧
      ∀ milestone ∈ since, milestone.resets = false := by
  induction history with
  | nil => simp at some_
  | cons first history ih =>
    by_cases later : ∃ milestone ∈ history, milestone.resets = true
    · obtain ⟨before, reset, since, rfl, resets, none_⟩ := ih later
      exact ⟨first :: before, reset, since, rfl, resets, none_⟩
    · have none_ : ∀ milestone ∈ history, milestone.resets = false := by simpa using later
      obtain ⟨milestone, mem, resets⟩ := some_
      rcases List.mem_cons.mp mem with rfl | later'
      · exact ⟨[], milestone, history, rfl, resets, none_⟩
      · exact absurd ⟨milestone, later', resets⟩ later

/-- A milestone that resets is all that counts. -/
theorem isOpen_concat_of_resets (resets : milestone.resets = true) :
    IsOpen (history ++ [milestone]) ↔ milestone.announces = true := by
  constructor
  · rintro ⟨before, reset, since, split, -, none_, open_⟩
    rcases cases_of_concat_eq split with ⟨rfl, -, rfl⟩ | ⟨since', rfl, -⟩
    · rcases open_ with announces | ⟨front, back, never, -⟩
      · exact announces
      · simp at never
    · have never := none_ milestone (by simp)
      rw [resets] at never
      contradiction
  · intro announces
    exact ⟨history, milestone, [], rfl, resets, by simp, .inl announces⟩

/-- Behind others a transaction is open as it was, unless a statement opens it. -/
theorem isOpen_concat (stays : milestone.resets = false)
    (some_ : ∃ milestone ∈ history, milestone.resets = true) :
    IsOpen (history ++ [milestone]) ↔
      IsOpen history ∨ milestone = executed ∧ lastMode? history = some false := by
  constructor
  · -- what opened the transaction stands in the history, or is the milestone
    rintro ⟨before, reset, since, split, resets, none_, open_⟩
    rcases cases_of_concat_eq split with ⟨rfl, -, rfl⟩ | ⟨since', rfl, rfl⟩
    · rw [stays] at resets
      contradiction
    · have none_' : ∀ other ∈ since', other.resets = false := fun other mem =>
        none_ other (List.mem_append_left _ mem)
      rcases open_ with announces | ⟨front, back, opened, off⟩
      · exact .inl ⟨before, reset, since', rfl, resets, none_', .inl announces⟩
      · rcases cases_of_concat_eq opened with ⟨-, rfl, rfl⟩ | ⟨back', -, rfl⟩
        · exact .inr ⟨rfl, off⟩
        · exact .inl ⟨before, reset, _, rfl, resets, none_', .inr ⟨front, back', rfl, off⟩⟩
  · -- the milestone ends no transaction
    rintro (⟨before, reset, since, rfl, resets, none_, open_⟩ | ⟨rfl, off⟩)
    · refine ⟨before, reset, since ++ [milestone], by simp, resets, ?_, ?_⟩
      · exact List.forall_mem_append.mpr ⟨none_, List.forall_mem_singleton.mpr stays⟩
      · refine open_.imp_right ?_
        rintro ⟨front, back, rfl, off⟩
        exact ⟨front, back ++ [milestone], by simp, off⟩
    · obtain ⟨before, reset, since, rfl, resets, none_⟩ := exists_latest some_
      exact ⟨before, reset, since ++ [executed], by simp, resets,
        List.forall_mem_append.mpr ⟨none_, List.forall_mem_singleton.mpr rfl⟩,
        .inr ⟨since, [], rfl, off⟩⟩

end Milestone

/-! ### Standings -/

/-- A connection tells what comes of a history. -/
structure Standing.IsOf (history : List Milestone) (standing : Standing) : Prop where
  /-- Somebody greeted, or settled. -/
  some_ : ∃ milestone ∈ history, milestone.resets = true
  /-- The mode is the latest. -/
  mode : Milestone.lastMode? history = some standing.autocommit
  /-- A transaction is open if one was opened. -/
  transaction : standing.transaction = .inTransaction ↔ Milestone.IsOpen history

namespace Standing

variable {standing : Standing} {history : List Milestone}

theorem isOf_greeted (former : Standing) (endpoint : Endpoint) (ready : SessionReady) :
    (former.after (.greeted endpoint ready)).IsOf [.greeted endpoint ready] where
  some_ := ⟨_, List.mem_singleton_self _, rfl⟩
  mode := rfl
  transaction := by
    rw [← List.nil_append [Milestone.greeted endpoint ready],
      Milestone.isOpen_concat_of_resets rfl]
    simp [after, Milestone.announces]

/-- One more milestone. -/
theorem IsOf.after (isOf : standing.IsOf history) (milestone : Milestone) :
    (standing.after milestone).IsOf (history ++ [milestone]) := by
  obtain ⟨some_, mode, transaction⟩ := isOf
  have some_' : ∃ other ∈ history ++ [milestone], other.resets = true := by
    obtain ⟨other, mem, resets⟩ := some_
    exact ⟨other, List.mem_append_left _ mem, resets⟩
  -- the mode is the last one that was set; a transaction ends where a milestone resets it
  cases milestone with
  | greeted endpoint ready =>
    refine ⟨some_', ?_, ?_⟩
    · rw [Milestone.lastMode?_concat]
      rfl
    · rw [Milestone.isOpen_concat_of_resets rfl]
      simp [Standing.after, Milestone.announces]
  | settled =>
    refine ⟨some_', ?_, ?_⟩
    · rw [Milestone.lastMode?_concat]
      exact mode
    · rw [Milestone.isOpen_concat_of_resets rfl]
      simp [Standing.after, Milestone.announces]
  | toggled on =>
    refine ⟨some_', ?_, ?_⟩
    · rw [Milestone.lastMode?_concat]
      rfl
    · rw [Milestone.isOpen_concat rfl some_]
      simpa [Standing.after] using transaction
  | executed =>
    refine ⟨some_', ?_, ?_⟩
    · rw [Milestone.lastMode?_concat, mode, Standing.after]
      split <;> rfl
    · rw [Milestone.isOpen_concat rfl some_, mode, Standing.after]
      split
      · next on => simpa [on] using transaction
      · next off => simp [off]
  | parked =>
    refine ⟨some_', ?_, ?_⟩
    · rw [Milestone.lastMode?_concat]
      exact mode
    · rw [Milestone.isOpen_concat rfl some_]
      simpa [Standing.after] using transaction

/-- And any number of them. -/
theorem IsOf.foldl (isOf : standing.IsOf history) (later : List Milestone) :
    (later.foldl Standing.after standing).IsOf (history ++ later) := by
  induction later generalizing standing history with
  | nil =>
    rw [List.append_nil]
    exact isOf
  | cons milestone later ih =>
    have next := ih (isOf.after milestone)
    rw [List.append_assoc] at next
    exact next

end Standing

namespace Cursor

variable {ν : Type} [Network ν]

/-- **What a connection tells follows what has succeeded.**  Whatever a server answers,
and whatever is done with a connection and with cursors on it, autocommit is as the
latest greeting or toggle left it; a transaction is open exactly if, since the latest
greeting, commit or rollback, that greeting told so or a statement succeeded while
autocommit was off; and a deed that fails, or that is none of these, leaves all
that the connection tells as it was, but that it may break the connection. -/
theorem standing_follows_history {options : Options} {traffic after : Traffic ν}
    {connection : Connection}
    (made : Session.connect options traffic = .ok connection after ∨
      ∃ token, Session.reclaim options token traffic = .ok connection after) :
    ∃ endpoint ready, Session.Opens endpoint ready connection after ∧
      ∀ (disk : Disk) (now : Int64) (deeds : List (Deed ν)),
        let start := onSession ⟨connection, after⟩ disk now
        let cursor := start.afterDeeds deeds
        let history := .greeted endpoint ready :: start.milestones deeds
        Milestone.lastMode? history = some cursor.session.connection.autocommit ∧
          (cursor.session.connection.inTransaction = true ↔ Milestone.IsOpen history) ∧
          ∀ deed : Deed ν, deed.succeeds cursor = false ∨ deed.aim? cursor = none →
            let later := (deed.after cursor).session.connection
            later.standing = cursor.session.connection.standing ∧
              later.isSuspended = cursor.session.connection.isSuspended ∧
              (cursor.session.connection.broken = true → later.broken = true) := by
  obtain ⟨endpoint, ready, opens⟩ :
      ∃ endpoint ready, Session.Opens endpoint ready connection after := by
    rcases made with connected | ⟨token, reclaimed⟩
    · exact Session.exists_opens_of_connect connected
    · exact Session.exists_opens_of_reclaim reclaimed
  refine ⟨endpoint, ready, opens, fun disk now deeds => ?_⟩
  intro start cursor history
  have greeted : start.session.connection.standing.IsOf [.greeted endpoint ready] := by
    have isOf := Standing.isOf_greeted connection.standing endpoint ready
    rwa [← opens.standing_eq] at isOf
  -- every deed moves the standing along its milestone, if it has one
  have isOf : cursor.session.connection.standing.IsOf history := by
    have isOf := greeted.foldl (start.milestones deeds)
    rwa [← standing_afterDeeds] at isOf
  refine ⟨isOf.mode, ?_, fun deed nothing => ?_⟩
  · rw [← isOf.transaction, Connection.inTransaction, beq_iff_eq]
    rfl
  · have none_ : deed.milestone? cursor = none := by
      rcases nothing with failed | aimless
      · exact Deed.milestone?_of_failed failed
      · rw [Deed.milestone?, aimless, ite_self]
    have moves := deed.moves cursor
    rw [none_] at moves
    exact ⟨moves.standing_eq, moves.isSuspended_eq, moves.broken_of_broken⟩

end Cursor

/-! ### A run -/

/-- A network with a server that grants a session, turns autocommit off and runs a
statement, and then is silent. -/
def grantingTraffic : Traffic ScriptedNetwork where
  network :=
    { waiting :=
        [{ address := "h:1"
           replies := [.messages [.sessionReady ⟨"srv", "1", 1⟩], .messages [.ok],
             .messages [.describe (fiveRowStore.describe ⟨true, 0⟩ 0), .batchEnd ⟨true, 0⟩]] }] }

/-- The connection to this server. -/
def grantedConnection : Connection where
  transport := some { link := 0 }
  endpoint := ⟨"h", 1⟩
  options := { endpoints := [⟨"h", 1⟩] }
  serverName := "srv"
  serverVersion := "1"
  autocommit := true
  transaction := .idle

/-- What is known of a run that turns autocommit off, runs a statement and asks in vain
whether the server answers. -/
theorem standing_follows_history_granted :
    let options : Options := { endpoints := [⟨"h", 1⟩] }
    let after := (Session.connect options grantingTraffic).state
    let start := Cursor.onSession ⟨grantedConnection, after⟩ {} 0
    let cursor := start.afterDeeds [.calls (.toggles false), .acts (.sends "q")]
    let ping : Cursor.Deed ScriptedNetwork := .calls .pings
    Session.connect options grantingTraffic = .ok grantedConnection after ∧
      cursor.session.connection.inTransaction = true ∧ ping.succeeds cursor = false ∧
      ∃ endpoint ready, Session.Opens endpoint ready grantedConnection after ∧
        Milestone.IsOpen (.greeted endpoint ready :: start.milestones
          [.calls (.toggles false), .acts (.sends "q")]) ∧
        (ping.after cursor).session.connection.standing = cursor.session.connection.standing := by
  intro options after start cursor ping
  have made : Session.connect options grantingTraffic = .ok grantedConnection after :=
    Outcome.eq_ok_of_toOption (by decide +kernel)
  have open_ : cursor.session.connection.inTransaction = true := by decide +kernel
  have fails : ping.succeeds cursor = false := by decide +kernel
  obtain ⟨endpoint, ready, opens, follows⟩ := Cursor.standing_follows_history (.inl made)
  obtain ⟨-, isOpen, unmoved⟩ :=
    follows {} 0 [.calls (.toggles false), .acts (.sends "q")]
  exact ⟨made, open_, fails, endpoint, ready, opens, isOpen.mp open_, (unmoved ping (.inl fails)).1⟩

end ProxyClient
