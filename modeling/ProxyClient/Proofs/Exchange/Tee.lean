/-
ProxyClient/Proofs/Exchange/Tee.lean

Two handlers side by side.  The pair takes events up to the first that one of
them refuses, and each of the two behaves as if it were alone:

    first   1 2 3 x           first   1 2 3 4
    second  1 2 3             second  1 2 3 x

On the left the first refuses the fourth event, and the second is not asked.
On the right the first takes it, and the second refuses it.  How many events a
handler takes before it refuses one is its `reach`; the pair stops where the
one that reaches less far does, and up to there it is two separate runs
(`run_tee`).

What the second has taken is therefore always a beginning of what the first
has taken, so that a recorder never runs ahead of the page that it stands
behind.  The two may be pairs again, or absent.
-/
import ProxyClient.Cursor.Basic
import ProxyClient.Proofs.Exchange.Answer

namespace ProxyClient

namespace Handler

variable {α β : Type}

/-! ### A handler alone -/

/-- The number of events that a handler takes before it refuses one. -/
def reach (handler : Handler α) : List RowEvent → α → Nat
  | [], _ => 0
  | event :: rest, a =>
    match handler event a with
    | .ok () a => handler.reach rest a + 1
    | .error _ _ => 0

/-- The handler, with the events that it has taken. -/
def recorded (handler : Handler α) : Handler (List RowEvent × α) :=
  fun event (taken, a) =>
    match handler event a with
    | .ok () a => .ok () (taken ++ [event], a)
    | .error e a => .error e (taken, a)

section

variable {handler : Handler α} {event : RowEvent} {a a' : α} {e : Error}

theorem reach_of_ok (taken : handler event a = .ok () a') (rest : List RowEvent) :
    handler.reach (event :: rest) a = handler.reach rest a' + 1 := by
  rw [reach, taken]

theorem reach_of_error (refused : handler event a = .error e a') (rest : List RowEvent) :
    handler.reach (event :: rest) a = 0 := by
  rw [reach, refused]

theorem recorded_of_ok (taken : handler event a = .ok () a') (log : List RowEvent) :
    handler.recorded event (log, a) = .ok () (log ++ [event], a') := by
  rw [recorded, taken]

theorem recorded_of_error (refused : handler event a = .error e a') (log : List RowEvent) :
    handler.recorded event (log, a) = .error e (log, a') := by
  rw [recorded, refused]

end

/-! ### A handler that may be absent -/

theorem run_optional_none (handler : Handler α) (events : List RowEvent) :
    (optional handler).run events none = .ok () none := by
  induction events with
  | nil => rfl
  | cons event rest ih => exact ih

theorem run_optional_some (handler : Handler α) (events : List RowEvent) (a : α) :
    (optional handler).run events (some a) = (handler.run events a).mapState some := by
  induction events generalizing a with
  | nil => rfl
  | cons event rest ih =>
    rw [run, run, optional]
    rcases handler event a with ⟨⟨⟩, a'⟩ | ⟨e, a'⟩
    · exact ih a'
    · rfl

/-! ### Two handlers -/

section

variable {first : Handler α} {second : Handler β} {event : RowEvent} {a a' : α} {b b' : β}
  {e : Error}

/-- The pair stops where the one stops that reaches less far. -/
theorem reach_tee (events : List RowEvent) (a : α) (b : β) :
    (first.tee second).reach events (a, b) = min (first.reach events a) (second.reach events b) := by
  induction events generalizing a b with
  | nil => rfl
  | cons event rest ih =>
    rcases taken : first event a with ⟨⟨⟩, a'⟩ | ⟨e, a'⟩
    · rcases taken' : second event b with ⟨⟨⟩, b'⟩ | ⟨e, b'⟩
      · rw [reach_of_ok (tee_of_ok taken taken'), ih, reach_of_ok taken, reach_of_ok taken',
          Nat.add_min_add_right]
      · rw [reach_of_error (tee_of_ok_error taken taken'), reach_of_error taken', Nat.min_zero]
    · rw [reach_of_error (tee_of_error taken), reach_of_error taken, Nat.zero_min]

/-- **The pair runs as the one that refuses, beside the other as far as it is
asked.**  An event that both would refuse is refused by the first. -/
theorem run_tee (events : List RowEvent) (a : α) (b : β) :
    (first.tee second).run events (a, b) =
      let stop := (first.tee second).reach events (a, b)
      let upTo := events.take (stop + 1)
      if first.reach events a = stop then
        (first.run upTo a).mapState (·, (second.run (events.take stop) b).state)
      else (second.run upTo b).mapState ((first.run upTo a).state, ·) := by
  -- the induction follows the events that both take
  induction events generalizing a b with
  | nil => rfl
  | cons event rest ih =>
    rcases taken : first event a with ⟨⟨⟩, a'⟩ | ⟨e, a'⟩
    · rcases taken' : second event b with ⟨⟨⟩, b'⟩ | ⟨e, b'⟩
      · have both := tee_of_ok taken taken'
        rw [run_of_ok both, ih, reach_of_ok both, reach_of_ok taken]
        simp only [List.take_succ_cons, run_of_ok taken, run_of_ok taken', Nat.add_right_cancel_iff]
      · -- the first has taken the event that ends the run
        have refused := tee_of_ok_error taken taken'
        rw [run_of_error refused, reach_of_error refused, reach_of_ok taken]
        simp only [Nat.succ_ne_zero, if_false, List.take_succ_cons, run_of_error taken',
          run_of_ok taken]
        rfl
    · -- the second is as it was
      have refused : first.tee second event (a, b) = .error e (a', b) := tee_of_error taken
      rw [run_of_error refused, reach_of_error refused, reach_of_error taken]
      simp only [if_true, List.take_succ_cons, run_of_error taken]
      rfl

/-- What the two have taken: the second what both take, and the first one event
more if the second has refused it. -/
theorem run_tee_recorded (events log : List RowEvent) (a : α) (b : β) :
    (first.recorded.tee second.recorded).run events ((log, a), (log, b)) =
      ((first.tee second).run events (a, b)).mapState fun ends =>
        ((log ++ events.take (min (first.reach events a) (second.reach events b + 1)), ends.1),
          (log ++ events.take (min (first.reach events a) (second.reach events b)), ends.2)) := by
  induction events generalizing log a b with
  | nil => simp only [List.take_nil, List.append_nil, run, Outcome.mapState]
  | cons event rest ih =>
    rcases taken : first event a with ⟨⟨⟩, a'⟩ | ⟨e, a'⟩
    · have told := recorded_of_ok taken log
      rcases taken' : second event b with ⟨⟨⟩, b'⟩ | ⟨e, b'⟩
      · -- both take the event
        rw [run_of_ok (tee_of_ok told (recorded_of_ok taken' log)), ih,
          run_of_ok (tee_of_ok taken taken'), reach_of_ok taken, reach_of_ok taken',
          Nat.add_min_add_right, Nat.add_min_add_right]
        simp only [List.take_succ_cons, List.append_assoc, List.singleton_append]
      · -- the second refuses it, and the first has taken it
        rw [run_of_error (tee_of_ok_error told (recorded_of_error taken' log)),
          run_of_error (tee_of_ok_error taken taken'), reach_of_ok taken, reach_of_error taken']
        simp [Outcome.mapState]
    · -- the first refuses it, and the second is not asked
      rw [run_of_error (tee_of_error (recorded_of_error taken log)),
        run_of_error (tee_of_error taken), reach_of_error taken]
      simp [Outcome.mapState]

/-- Beside a second that takes everything and stays what it is, the first runs alone. -/
theorem run_tee_of_silent (silent : ∀ event, second event b = .ok () b) (events : List RowEvent)
    (a : α) : (first.tee second).run events (a, b) = (first.run events a).mapState (·, b) := by
  induction events generalizing a with
  | nil => rfl
  | cons event rest ih =>
    rcases taken : first event a with ⟨⟨⟩, a'⟩ | ⟨e, a'⟩
    · rw [run_of_ok (tee_of_ok taken (silent event)), ih, run_of_ok taken]
    · rw [run_of_error (tee_of_error taken), run_of_error taken]
      rfl

/-- Behind a first that takes everything and stays what it is, the second runs alone. -/
theorem run_silent_tee (silent : ∀ event, first event a = .ok () a) (events : List RowEvent)
    (b : β) : (first.tee second).run events (a, b) = (second.run events b).mapState (a, ·) := by
  induction events generalizing b with
  | nil => rfl
  | cons event rest ih =>
    rcases taken : second event b with ⟨⟨⟩, b'⟩ | ⟨e, b'⟩
    · rw [run_of_ok (tee_of_ok (silent event) taken), ih, run_of_ok taken]
    · rw [run_of_error (tee_of_ok_error (silent event) taken), run_of_error taken]
      rfl

end

/-! ### The headline -/

/-- **Two handlers side by side behave as each would alone.**  The pair stops at
the first event that one of them refuses.  The first ends as it would alone on
the events up to this one, and so does the second, but without this one if it
is the first that refuses it; and the error is that of the one that refuses.
What the second has taken is a beginning of what the first has taken.  An
absent handler changes nothing, neither alone nor beside another. -/
theorem tee_runs_apart (first : Handler α) (second : Handler β) (events : List RowEvent) (a : α)
    (b : β) :
    let run := (first.tee second).run events (a, b)
    let stop := (first.tee second).reach events (a, b)
    let upTo := events.take (stop + 1)
    let told := (first.recorded.tee second.recorded).run events (([], a), ([], b))
    stop = min (first.reach events a) (second.reach events b) ∧
    run = (if first.reach events a = stop then
        (first.run upTo a).mapState (·, (second.run (events.take stop) b).state)
      else (second.run upTo b).mapState ((first.run upTo a).state, ·)) ∧
    (told.mapState fun ends => (ends.1.2, ends.2.2)) = run ∧
    told.state.2.1 = events.take stop ∧ told.state.2.1 <+: told.state.1.1 ∧
    (∀ {γ : Type} (absent : Handler γ),
      (optional absent).run events none = .ok () none ∧
      (first.tee (optional absent)).run events (a, none) = (first.run events a).mapState (·, none) ∧
      ((optional absent).tee second).run events (none, b) =
        (second.run events b).mapState (none, ·)) ∧
    (optional first).run events (some a) = (first.run events a).mapState some ∧
    ∀ disk, (first.tee CacheWriter.optionalHandler).run events (a, none, disk) =
      (first.run events a).mapState (·, none, disk) := by
  intro run stop upTo told
  have least : stop = min (first.reach events a) (second.reach events b) := reach_tee events a b
  have logs : told = run.mapState fun ends =>
      ((events.take (min (first.reach events a) (second.reach events b + 1)), ends.1),
        (events.take stop, ends.2)) := by
    rw [least]
    exact run_tee_recorded events [] a b
  refine ⟨least, run_tee events a b, ?_, ?_, ?_,
    fun absent => ⟨run_optional_none absent events, ?_, ?_⟩, run_optional_some first events a,
    fun disk => ?_⟩
  · -- the logs change nothing
    rw [logs, Outcome.mapState_mapState]
    exact Outcome.mapState_id run
  · rw [logs, Outcome.state_mapState]
  · -- the second is never ahead of the first
    rw [logs, Outcome.state_mapState, least]
    exact List.take_prefix_take_left (by omega)
  · have silent (event : RowEvent) : optional absent event none = .ok () none := rfl
    exact run_tee_of_silent silent events a
  · have silent (event : RowEvent) : optional absent event none = .ok () none := rfl
    exact run_silent_tee silent events b
  · have silent (event : RowEvent) :
        CacheWriter.optionalHandler event (none, disk) = .ok () (none, disk) := rfl
    exact run_tee_of_silent silent events a

/-- A row that the second refuses is counted by the first. -/
example : (counter.tee fun _ asked => .error .suspended asked).run [.row ⟨0, []⟩] (0, ()) =
    .error .suspended (1, ()) := rfl

end Handler

end ProxyClient
