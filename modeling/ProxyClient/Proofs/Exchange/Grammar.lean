/-
ProxyClient/Proofs/Exchange/Grammar.lean

The language of the answers to queries, in the letters of their frames:

    a statement, an attachment   T (o | D)* C
    a fetch                        (o | D)* C

A frame spells the event that its payload holds (`Frame.Spells`), and a list of
frames belongs to the language if it spells events in this order
(`QueryRequest.Admits`).  A query that is driven over any frames takes the longest
beginning that can still become an answer, and then

    the answer is complete           →  it is done, and leaves the frames behind it
    the next frame does not fit      →  it fails at this frame
    there are no more frames         →  it waits

(`Query.drive_follows_grammar`).  Where it ended, with an answer or an error frame,
it stays: further frames reach no handler.
-/
import Mathlib.Data.List.Forall2
import ProxyClient.Proofs.Exchange.Journal

namespace ProxyClient

/-! ### Feeding an exchange -/

namespace Exchange

variable {σ : Type} (exchange : Exchange σ)

/-- Takes frames one after the other as long as the exchange wants more, and tells
which are left. -/
def feed : List Frame → σ → Outcome Progress (List Frame × σ)
  | [], state => .ok .more ([], state)
  | frame :: rest, state =>
    match exchange.step frame state with
    | .error e state => .error e (rest, state)
    | .ok .done state => .ok .done (rest, state)
    | .ok .more state => feed rest state

/-- Begins the exchange, and feeds it. -/
def drive (frames : List Frame) (state : σ) : Outcome Progress (List Frame × σ) :=
  match exchange.start state with
  | .error e state => .error e (frames, state)
  | .ok _ state => exchange.feed frames state

/-- Goes on with every frame, whatever the steps come to. -/
def stepOn (frames : List Frame) (state : σ) : σ :=
  frames.foldl (fun state frame => (exchange.step frame state).state) state

/-- Reading an answer off a link feeds the exchange with the frames that arrived.  Where
it waits for more, the link is at its end. -/
theorem readAnswer_eq_feed {frames : List Frame} (fit : ∀ frame ∈ frames, frame.Fits)
    {inbox : Inbox} (front : inbox.bytes = frames.flatMap Frame.encode) (state : σ) :
    ∃ behind : Inbox, behind.bytes = (exchange.feed frames state).state.1.flatMap Frame.encode ∧
      (readAnswer exchange inbox state).state = (behind, (exchange.feed frames state).state.2) ∧
      ((readAnswer exchange inbox state).toExcept = .ok () ↔
        (exchange.feed frames state).toExcept = .ok .done) := by
  induction frames generalizing inbox state with
  | nil =>
    -- no bytes are the beginning of a frame, and not all of it
    have torn : Frame.Torn (FaithfulSource.unread inbox) :=
      ⟨⟨0, []⟩, Frame.encode ⟨0, []⟩, by decide, by decide, by
        rw [show FaithfulSource.unread inbox = inbox.bytes from rfl, front]
        rfl⟩
    obtain ⟨behind, empty, cut⟩ := FaithfulSource.readFrame_of_torn torn
    obtain ⟨e, -, read⟩ := readAnswer_of_no_frame exchange state cut
    rw [read]
    exact ⟨behind, empty, rfl, by simp [feed, Outcome.toExcept]⟩
  | cons frame frames ih =>
    rw [List.flatMap_cons] at front
    obtain ⟨inbox', read, left, -⟩ :=
      Query.readFrame_of_arrived (fit frame List.mem_cons_self) front
    rw [readAnswer_of_frame exchange state read, feed]
    rcases exchange.step frame state with ⟨- | -, state'⟩ | ⟨e, state'⟩
    · exact ih (fun other mem => fit other (List.mem_cons_of_mem frame mem)) left state'
    · exact ⟨inbox', left, rfl, by simp [Outcome.toExcept]⟩
    · exact ⟨inbox', left, rfl, by simp [Outcome.toExcept]⟩

end Exchange

/-! ### The language -/

/-- Frames spell events, each its own. -/
abbrev Spell : List Frame → List RowEvent → Prop :=
  List.Forall₂ Frame.Spells

/-- `(o | D)* C` -/
inductive IsBatch : List RowEvent → Prop
  | last (batch : BatchEnd) : IsBatch [.batchEnd batch]
  | outputBinds (binds : List OutputBind) {rest : List RowEvent} :
      IsBatch rest → IsBatch (.outputBinds binds :: rest)
  | row (row : DataRow) {rest : List RowEvent} : IsBatch rest → IsBatch (.row row :: rest)

namespace QueryRequest

/-- The events answer the request: `T (o | D)* C`, and `(o | D)* C` for a fetch. -/
def Admits : QueryRequest → List RowEvent → Prop
  | fetch .., events => IsBatch events
  | execute .., .describe _ :: rest | resume .., .describe _ :: rest => IsBatch rest
  | _, _ => False

/-- The events are the beginning of an answer, and not all of it. -/
def Opens (request : QueryRequest) (events : List RowEvent) : Prop :=
  ∃ next rest, request.Admits (events ++ next :: rest)

/-- Behind these events the frame does not belong to any answer: it spells no event, or
one that cannot follow. -/
def Leaves (request : QueryRequest) (events : List RowEvent) (frame : Frame) : Prop :=
  ∀ event, frame.Spells event → ∀ rest, ¬ request.Admits (events ++ event :: rest)

end QueryRequest

namespace QueryPhase

/-- The events complete an answer that has come to the phase. -/
def Admits : QueryPhase → List RowEvent → Prop
  | .waitingDescribe, .describe _ :: rest => IsBatch rest
  | .processingRows, events => IsBatch events
  | .finished, events => events = []
  | _, _ => False

/-- The events are the beginning of what completes the answer, and not all of it. -/
def Opens (phase : QueryPhase) (events : List RowEvent) : Prop :=
  ∃ next rest, phase.Admits (events ++ next :: rest)

theorem admits_cons {phase : QueryPhase} {event : RowEvent} {rest : List RowEvent} :
    phase.Admits (event :: rest) ↔
      event.phase = phase ∧ (Query.phaseAfter event).Admits rest := by
  cases phase <;> cases event <;>
    simp only [Admits, RowEvent.phase, Query.phaseAfter, reduceCtorEq, false_and, true_and]
  case processingRows.describe => exact iff_of_false (fun h => by cases h) id
  case processingRows.outputBinds binds =>
    refine ⟨fun h => ?_, .outputBinds binds⟩
    cases h with
    | outputBinds _ batch => exact batch
  case processingRows.row row => exact ⟨fun h => by cases h; assumption, .row row⟩
  case processingRows.batchEnd batch =>
    refine ⟨fun h => ?_, fun h => h ▸ .last batch⟩
    cases h with
    | last => rfl

theorem admits_append {phase : QueryPhase} {front back : List RowEvent} :
    phase.Admits (front ++ back) ↔
      InPlace phase front ∧ (phaseBehind phase front).Admits back := by
  induction front generalizing phase with
  | nil => simp only [List.nil_append, InPlace, phaseBehind, List.foldl_nil, true_and]
  | cons event front ih =>
    rw [List.cons_append, admits_cons, ih]
    exact and_assoc.symm

theorem opens_cons {phase : QueryPhase} {event : RowEvent} {rest : List RowEvent} :
    phase.Opens (event :: rest) ↔ event.phase = phase ∧ (Query.phaseAfter event).Opens rest := by
  simp only [Opens, List.cons_append, admits_cons, exists_and_left]

/-- The phases in which more is expected. -/
def IsOpen (phase : QueryPhase) : Prop :=
  phase = .waitingDescribe ∨ phase = .processingRows

theorem IsOpen.opens_nil {phase : QueryPhase} (isOpen : phase.IsOpen) : phase.Opens [] := by
  have batch : IsBatch [.batchEnd ⟨true, 0⟩] := .last _
  rcases isOpen with rfl | rfl
  · exact ⟨.describe (.ofParts ⟨0, 0, 0, 0, 0, 0⟩ []), _, batch⟩
  · exact ⟨_, [], batch⟩

/-- Behind an event an answer can be completed. -/
theorem exists_admits_phaseAfter (event : RowEvent) :
    ∃ rest, (Query.phaseAfter event).Admits rest := by
  cases event with
  | describe | outputBinds | row => exact ⟨[.batchEnd ⟨true, 0⟩], .last _⟩
  | batchEnd => exact ⟨[], rfl⟩

/-- Behind a whole answer nothing is expected. -/
theorem phaseBehind_of_admits {phase : QueryPhase} {events : List RowEvent}
    (admits : phase.Admits events) : phaseBehind phase events = .finished := by
  rw [← List.append_nil events, admits_append] at admits
  generalize phaseBehind phase events = last at admits
  cases last with
  | finished => rfl
  | initial | waitingDescribe => exact admits.2.elim
  | processingRows => cases admits.2

/-- Any frames begin with an answer, or are the beginning of one, up to their end or to a
frame that does not belong to any. -/
theorem exists_course {phase : QueryPhase} (isOpen : phase.IsOpen) (frames : List Frame) :
    (∃ answer rest events, frames = answer ++ rest ∧ Spell answer events ∧ events ≠ [] ∧
      phase.Admits events) ∨
    (∃ events, Spell frames events ∧ phase.Opens events) ∨
    ∃ front frame back events, frames = front ++ frame :: back ∧ Spell front events ∧
      phase.Opens events ∧
      ∀ event, frame.Spells event → ∀ rest, ¬ phase.Admits (events ++ event :: rest) := by
  induction frames generalizing phase with
  | nil => exact .inr (.inl ⟨[], .nil, isOpen.opens_nil⟩)
  | cons frame frames ih =>
    by_cases fits : ∃ event, frame.Spells event ∧ event.phase = phase
    · obtain ⟨event, spells, rfl⟩ := fits
      by_cases last : (Query.phaseAfter event).IsOpen
      · -- the course of the other frames, behind this event
        rcases ih last with ⟨answer, rest, events, rfl, spell, -, admits⟩ |
          ⟨events, spell, opens⟩ | ⟨front, bad, back, events, rfl, spell, opens, leaves⟩
        · exact .inl ⟨frame :: answer, rest, event :: events, rfl, .cons spells spell,
            List.cons_ne_nil _ _, admits_cons.mpr ⟨rfl, admits⟩⟩
        · exact .inr (.inl ⟨event :: events, .cons spells spell, opens_cons.mpr ⟨rfl, opens⟩⟩)
        · refine .inr (.inr ⟨frame :: front, bad, back, event :: events, rfl, .cons spells spell,
            opens_cons.mpr ⟨rfl, opens⟩, fun other spells' rest admits => ?_⟩)
          exact leaves other spells' rest (admits_cons.mp admits).2
      · cases event with
        | batchEnd batch =>
          exact .inl ⟨[frame], frames, [.batchEnd batch], rfl, .cons spells .nil,
            List.cons_ne_nil _ _, admits_cons.mpr ⟨rfl, rfl⟩⟩
        | describe | outputBinds | row => exact absurd (.inr rfl) last
    · refine .inr (.inr ⟨[], frame, frames, [], rfl, .nil, isOpen.opens_nil, ?_⟩)
      intro event spells rest admits
      exact fits ⟨event, spells, (admits_cons.mp admits).1⟩

end QueryPhase

namespace QueryRequest

variable {request : QueryRequest} {events : List RowEvent}

theorem isOpen_firstPhase (request : QueryRequest) : request.firstPhase.IsOpen := by
  cases request with
  | execute | resume => exact .inl rfl
  | fetch => exact .inr rfl

theorem ne_nil_of_admits (admits : request.Admits events) : events ≠ [] := by
  rintro rfl
  cases request with
  | execute | resume => exact admits
  | fetch => cases admits

theorem admits_firstPhase : request.firstPhase.Admits events ↔ request.Admits events := by
  cases request with
  | fetch => exact Iff.rfl
  | execute | resume =>
    rcases events with - | ⟨- | - | - | -, rest⟩
    all_goals exact Iff.rfl

end QueryRequest

/-! ### Driving a query -/

namespace Query

variable {η : Type} {handler : Handler η} {take : η → RowEvent → η} {query : Query η}
  {frames rest : List Frame} {events : List RowEvent} (request : QueryRequest)

/-- The query when some events were taken. -/
def behind (take : η → RowEvent → η) (events : List RowEvent) (query : Query η) : Query η where
  phase := phaseBehind query.phase events
  rows := query.rows + (RowEvent.rowsOf events).length
  handler := events.foldl take query.handler

theorem behind_cons (event : RowEvent) (events : List RowEvent) (query : Query η) :
    (query.behind take [event]).behind take events = query.behind take (event :: events) := by
  have rows : RowEvent.rowsOf (event :: events) = RowEvent.rowsOf [event] ++ RowEvent.rowsOf events :=
    RowEvent.rowsOf_append [event] events
  simp only [behind, phaseBehind, List.foldl_cons, List.foldl_nil, rows, List.length_append,
    Nat.add_assoc]

/-- An event in place is handed over. -/
theorem step_of_spells (takes : handler.Takes take) {frame : Frame} {event : RowEvent}
    (spells : frame.Spells event) (place : event.phase = query.phase) :
    (exchange request handler).step frame query =
      .ok (progressAfter event) (query.behind take [event]) := by
  have counted : rowsIn event = (RowEvent.rowsOf [event]).length := by cases event <;> rfl
  show step handler frame query = _
  rw [step, eventOf_eq_ok_iff.mpr ⟨spells, place⟩]
  simp only [takes event query.handler, counted]
  rfl

/-- A frame that cannot follow is an error, and no handler hears of it. -/
theorem step_of_misplaced (handler : Handler η) (query : Query η) {frame : Frame}
    (misplaced : ∀ event, frame.Spells event → event.phase ≠ query.phase) :
    ∃ e, (exchange request handler).step frame query = .error e
      { query with phase :=
          if frame.type = ServerMessage.Kind.error.toByte then .finished else query.phase } := by
  rcases found : eventOf query.phase frame with e | event
  · refine ⟨e, ?_⟩
    show step handler frame query = _
    rw [step, found]
  · obtain ⟨spells, place⟩ := eventOf_eq_ok_iff.mp found
    exact absurd place (misplaced event spells)

/-- The beginning of an answer is taken, and more is wanted. -/
theorem feed_of_opens (takes : handler.Takes take) (spell : Spell frames events)
    (opens : query.phase.Opens events) :
    (exchange request handler).feed (frames ++ rest) query =
      (exchange request handler).feed rest (query.behind take events) := by
  induction spell generalizing query with
  | nil => rfl
  | @cons frame event frames events spells spell ih =>
    obtain ⟨place, opens⟩ := QueryPhase.opens_cons.mp opens
    have more : progressAfter event = .more := by
      cases event with
      | describe | outputBinds | row => rfl
      | batchEnd =>
        -- nothing is expected behind the end of a batch
        obtain ⟨next, rest, none⟩ := opens
        exact absurd none (by simp [QueryPhase.Admits, phaseAfter])
    rw [List.cons_append, Exchange.feed, step_of_spells request takes spells place, more]
    rw [← behind_cons event events query]
    exact ih opens

/-- An answer is taken to its end, and nothing behind it. -/
theorem feed_of_admits (takes : handler.Takes take) (spell : Spell frames events)
    (nonempty : events ≠ []) (admits : query.phase.Admits events) :
    (exchange request handler).feed (frames ++ rest) query =
      .ok .done (rest, query.behind take events) := by
  -- each event but the last is in its place and asks for more
  induction spell generalizing query with
  | nil => exact absurd rfl nonempty
  | @cons frame event frames events spells spell ih =>
    obtain ⟨place, admits⟩ := QueryPhase.admits_cons.mp admits
    rw [List.cons_append, Exchange.feed, step_of_spells request takes spells place]
    cases event with
    | batchEnd =>
      obtain rfl : events = [] := admits
      obtain rfl := List.forall₂_nil_right_iff.mp spell
      rfl
    | describe | outputBinds | row =>
      have nonempty : events ≠ [] := by
        rintro rfl
        cases admits
      rw [← behind_cons _ events query]
      exact ih nonempty admits

/-- Behind the end of an answer every frame is an error that nobody hears of. -/
theorem stepOn_of_finished (finished : query.phase = .finished) (later : List Frame) :
    (exchange request handler).stepOn later query = query := by
  induction later with
  | nil => rfl
  | cons frame later ih =>
    have misplaced : ∀ event, frame.Spells event → event.phase ≠ query.phase := by
      intro event spells
      rw [finished]
      cases event <;> exact QueryPhase.noConfusion
    obtain ⟨e, stepped⟩ := step_of_misplaced request handler query misplaced
    rw [finished, ite_self, ← finished] at stepped
    rw [Exchange.stepOn, List.foldl_cons, stepped]
    exact ih

/-- A request that was written, with its handler. -/
abbrev sent (request : QueryRequest) (start : η) : Query η :=
  { phase := request.firstPhase, handler := start }

variable {request}

/-- It takes an answer to its end. -/
theorem feed_answer (takes : handler.Takes take) (start : η) (spell : Spell frames events)
    (admits : request.Admits events) (rest : List Frame) :
    (exchange request handler).feed (frames ++ rest) (sent request start) =
      .ok .done (rest, ⟨.finished, (RowEvent.rowsOf events).length, events.foldl take start⟩) := by
  have admits' := QueryRequest.admits_firstPhase.mpr admits
  rw [feed_of_admits request takes spell (QueryRequest.ne_nil_of_admits admits) admits', behind,
    QueryPhase.phaseBehind_of_admits admits', Nat.zero_add]

/-- It takes the beginning of an answer, and waits. -/
theorem feed_opening (takes : handler.Takes take) (start : η) (spell : Spell frames events)
    (opens : request.Opens events) (rest : List Frame) :
    (exchange request handler).feed (frames ++ rest) (sent request start) =
      (exchange request handler).feed rest
        ⟨phaseBehind request.firstPhase events, (RowEvent.rowsOf events).length,
          events.foldl take start⟩ := by
  obtain ⟨next, tail, admits⟩ := opens
  rw [feed_of_opens request takes spell ⟨next, tail, QueryRequest.admits_firstPhase.mpr admits⟩,
    behind, Nat.zero_add]

/-- It stops at a frame that leaves the language. -/
theorem feed_of_leaves (takes : handler.Takes take) (start : η) {frame : Frame}
    (spell : Spell frames events) (opens : request.Opens events)
    (leaves : request.Leaves events frame) (rest : List Frame) :
    ∃ e, (exchange request handler).feed (frames ++ frame :: rest) (sent request start) =
      .error e (rest,
        ⟨if frame.type = ServerMessage.Kind.error.toByte then .finished
            else phaseBehind request.firstPhase events,
          (RowEvent.rowsOf events).length, events.foldl take start⟩) := by
  rw [feed_opening takes start spell opens, Exchange.feed]
  obtain ⟨next, tail, admits⟩ := opens
  obtain ⟨inPlace, -⟩ :=
    QueryPhase.admits_append.mp (QueryRequest.admits_firstPhase.mpr admits)
  have misplaced : ∀ event, frame.Spells event →
      event.phase ≠ phaseBehind request.firstPhase events := by
    intro event spells place
    -- an event in place could be followed by the end of an answer
    obtain ⟨tail, completes⟩ := QueryPhase.exists_admits_phaseAfter event
    refine leaves event spells tail (QueryRequest.admits_firstPhase.mp ?_)
    exact QueryPhase.admits_append.mpr ⟨inPlace, QueryPhase.admits_cons.mpr ⟨place, completes⟩⟩
  obtain ⟨e, stepped⟩ := step_of_misplaced request handler
    ⟨phaseBehind request.firstPhase events, _, events.foldl take start⟩ misplaced
  exact ⟨e, by rw [stepped]⟩

/-- What becomes of a query that is fed with frames. -/
inductive Course (request : QueryRequest) (take : η → RowEvent → η) (start : η) :
    List Frame → Outcome Progress (List Frame × Query η) → Prop
  /-- They begin with an answer. -/
  | done {answer rest : List Frame} {events : List RowEvent} :
      Spell answer events → request.Admits events →
      Course request take start (answer ++ rest)
        (.ok .done (rest,
          ⟨.finished, (RowEvent.rowsOf events).length, events.foldl take start⟩))
  /-- They are the beginning of an answer. -/
  | waits {frames : List Frame} {events : List RowEvent} :
      Spell frames events → request.Opens events →
      Course request take start frames
        (.ok .more ([],
          ⟨phaseBehind request.firstPhase events, (RowEvent.rowsOf events).length,
            events.foldl take start⟩))
  /-- One of them belongs to no answer. -/
  | fails {front rest : List Frame} {frame : Frame} {events : List RowEvent} (e : Error) :
      Spell front events → request.Opens events → request.Leaves events frame →
      Course request take start (front ++ frame :: rest)
        (.error e (rest,
          ⟨if frame.type = ServerMessage.Kind.error.toByte then .finished
              else phaseBehind request.firstPhase events,
            (RowEvent.rowsOf events).length, events.foldl take start⟩))

theorem course_feed (takes : handler.Takes take) (request : QueryRequest) (frames : List Frame)
    (start : η) :
    Course request take start frames
      ((exchange request handler).feed frames (sent request start)) := by
  rcases QueryPhase.exists_course request.isOpen_firstPhase frames with
    ⟨answer, rest, events, rfl, spell, -, admits⟩ | ⟨events, spell, next, tail, admits⟩ |
    ⟨front, frame, rest, events, rfl, spell, ⟨next, tail, admits⟩, leaves⟩
  · -- an answer that is whole stands in front
    have admits := QueryRequest.admits_firstPhase.mp admits
    rw [feed_answer takes start spell admits]
    exact .done spell admits
  · -- all frames are a beginning of one
    have opens : request.Opens events := ⟨next, tail, QueryRequest.admits_firstPhase.mp admits⟩
    have waits := feed_opening takes start spell opens []
    rw [List.append_nil] at waits
    rw [waits]
    exact .waits spell opens
  · -- the first frame that goes astray
    have opens : request.Opens events := ⟨next, tail, QueryRequest.admits_firstPhase.mp admits⟩
    have leaves : request.Leaves events frame := fun event spells rest admits =>
      leaves event spells rest (QueryRequest.admits_firstPhase.mpr admits)
    obtain ⟨e, failed⟩ := feed_of_leaves takes start spell opens leaves rest
    rw [failed]
    exact .fails e spell opens leaves

/-- **A query takes the language of its answers and nothing else.**  Over any frames it is
done exactly with those of an answer, it fails exactly at the first frame that leaves the
language, and it waits exactly for the rest of an answer.  The handler was told the events
in front of this, each once and in order, and the rows among them are counted.  Behind an
answer and behind an error frame it is told nothing any more.  So it is, too, when the
frames arrive on a link. -/
theorem drive_follows_grammar (takes : handler.Takes take) (request : QueryRequest)
    (frames : List Frame) (start : η) :
    let exchange := exchange request handler
    let outcome := exchange.drive frames { handler := start }
    (∀ e, request.request.encode = .error e → outcome = .error e (frames, { handler := start })) ∧
    ∀ bytes, request.request.encode = .ok bytes →
      (∀ rest query, outcome = .ok .done (rest, query) ↔
        ∃ answer events, frames = answer ++ rest ∧ Spell answer events ∧ request.Admits events ∧
          query = ⟨.finished, (RowEvent.rowsOf events).length, events.foldl take start⟩) ∧
      (∀ rest query, (∃ e, outcome = .error e (rest, query)) ↔
        ∃ front frame events, frames = front ++ frame :: rest ∧ Spell front events ∧
          request.Opens events ∧ request.Leaves events frame ∧
          query.rows = (RowEvent.rowsOf events).length ∧ query.handler = events.foldl take start ∧
          query.phase = if frame.type = ServerMessage.Kind.error.toByte then .finished
            else phaseBehind request.firstPhase events) ∧
      (∀ rest query, outcome = .ok .more (rest, query) ↔
        rest = [] ∧ ∃ events, Spell frames events ∧ request.Opens events ∧
          query = ⟨phaseBehind request.firstPhase events, (RowEvent.rowsOf events).length,
            events.foldl take start⟩) ∧
      (outcome.state.2.phase = .finished →
        ∀ later, exchange.stepOn later outcome.state.2 = outcome.state.2) ∧
      ∀ inbox : Inbox, (∀ frame ∈ frames, frame.Fits) →
        inbox.bytes = frames.flatMap Frame.encode →
        let answer := readAnswer exchange inbox { phase := request.firstPhase, handler := start }
        ∃ behind : Inbox, behind.bytes = outcome.state.1.flatMap Frame.encode ∧
          answer.state = (behind, outcome.state.2) ∧
          (answer.toExcept = .ok () ↔ outcome.toExcept = .ok .done) := by
  simp only
  refine ⟨fun e refused => by simp only [Exchange.drive, exchange, refused], fun bytes written => ?_⟩
  -- behind the request, the frames are fed to the query; the course says how that may end
  have driven : (exchange request handler).drive frames { handler := start } =
      (exchange request handler).feed frames (sent request start) := by
    simp only [Exchange.drive, exchange, written]
  rw [driven]
  have course := course_feed takes request frames start
  refine ⟨fun rest query => ⟨fun done => ?_, ?_⟩, fun rest query => ⟨?_, ?_⟩,
    fun rest query => ⟨fun waits => ?_, ?_⟩,
    fun finished later => stepOn_of_finished request finished later,
    fun inbox fit front => (exchange request handler).readAnswer_eq_feed fit front _⟩
  · -- done: the course knows the answer
    rw [done] at course
    cases course with
    | done spell admits => exact ⟨_, _, rfl, spell, admits, rfl⟩
  · -- done: an answer is taken up to its last frame
    rintro ⟨answer, events, rfl, spell, admits, rfl⟩
    exact feed_answer takes start spell admits rest
  · -- an error: the course knows the frame that goes astray
    rintro ⟨e, failed⟩
    rw [failed] at course
    cases course with
    | fails _ spell opens leaves => exact ⟨_, _, _, rfl, spell, opens, leaves, rfl, rfl, rfl⟩
  · -- an error: such a frame is not let through
    rintro ⟨front, frame, events, rfl, spell, opens, leaves, counted, told, ended⟩
    obtain ⟨e, failed⟩ := feed_of_leaves takes start spell opens leaves rest
    rw [← counted, ← told, ← ended] at failed
    exact ⟨e, failed⟩
  · -- more: the course knows the beginning
    rw [waits] at course
    cases course with
    | waits spell opens => exact ⟨rfl, _, spell, opens, rfl⟩
  · -- more: a beginning is taken, and more is waited for
    rintro ⟨rfl, events, spell, opens, rfl⟩
    have waits := feed_opening takes start spell opens []
    rwa [List.append_nil] at waits

/-- What is known of an answer with two rows and a frame too many. -/
theorem drive_follows_grammar_answered :
    let request : QueryRequest := .execute "q" {} ⟨false, 0⟩
    let opening : Describe := .ofParts ⟨7, 0, -1, -1, 0, 0⟩ []
    let row : DataRow := ⟨0, []⟩
    let batch : BatchEnd := ⟨true, 0⟩
    Handler.journal.Takes (fun events event => events ++ [event]) ∧
      request.Admits [.describe opening, .row row, .row row, .batchEnd batch] ∧
      (exchange request Handler.journal).drive
          [opening.frame, row.frame, row.frame, batch.frame, row.frame] { handler := [] } =
        .ok .done ([row.frame],
          ⟨.finished, 2, [.describe opening, .row row, .row row, .batchEnd batch]⟩) := by
  intro request opening row batch
  have described : opening.frame.Spells (.describe opening) :=
    .describe (RowEvent.legible_ofParts rfl []).decoded_describe
  have rowed : row.frame.Spells (.row row) := .row row.decoded_payload
  have ended : batch.frame.Spells (.batchEnd batch) := .batchEnd (by decide)
  have admits : request.Admits [.describe opening, .row row, .row row, .batchEnd batch] :=
    .row row (.row row (.last batch))
  refine ⟨Handler.takes_journal, admits, ?_⟩
  obtain ⟨bytes, written⟩ : ∃ bytes, request.request.encode = .ok bytes := ⟨_, rfl⟩
  have course := (drive_follows_grammar Handler.takes_journal request
    [opening.frame, row.frame, row.frame, batch.frame, row.frame] []).2 bytes written
  exact (course.1 [row.frame] _).mpr ⟨[opening.frame, row.frame, row.frame, batch.frame], _, rfl,
    .cons described (.cons rowed (.cons rowed (.cons ended .nil))), admits, rfl⟩

end Query

end ProxyClient
