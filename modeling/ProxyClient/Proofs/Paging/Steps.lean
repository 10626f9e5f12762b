/-
ProxyClient/Proofs/Paging/Steps.lean

A result set under every order of the steps that are made with it, each of them
an event of an answer or one of

    resets      the result set is forgotten
    begins      the page is cleared for the rows of a fetch
    suspends    the page is given up

A row, output variables and the end of a batch have their place behind a
description or the beginning of a page, with nothing else between; all the rest may
come at any time (`InOrder`).  So an answer may break off anywhere.

The counters move only forward, because a page in which rows may arrive counts none
of them before the end of the batch (`Sits`).  What the page shows and the
length of the longest value in a column are those of the rows taken since some
step (`rowsSince`): the page since it was cleared, and the length since the column
was forgotten.
-/
import ProxyClient.Proofs.Exchange.Events
import ProxyClient.Proofs.Message.Fields
import ProxyClient.Proofs.Paging.Window

namespace ProxyClient.ResultSet

variable {rs : ResultSet} {phase : QueryPhase}

/-! ### Steps -/

/-- What is done with a result set. -/
inductive Step where
  /-- It is forgotten, before a statement or an attachment. -/
  | resets (nullsAsEmpty : Bool)
  /-- The page is cleared for the rows of a fetch. -/
  | begins
  /-- An event of an answer is taken. -/
  | takes (event : RowEvent)
  /-- The page is given up. -/
  | suspends
  deriving DecidableEq, Repr

namespace Step

/-- The result set after it. -/
def after (rs : ResultSet) : Step → ResultSet
  | resets nullsAsEmpty => reset nullsAsEmpty
  | begins => rs.beginPage
  | takes event => rs.apply event
  | suspends => rs.suspend

/-- What may arrive behind it. -/
def phaseAfter : Step → QueryPhase
  | resets _ => .waitingDescribe
  | begins => .processingRows
  | takes event => Query.phaseAfter event
  | suspends => .finished

/-- It has its place where an answer has come to a phase; a description has it
everywhere. -/
def Fits (phase : QueryPhase) : Step → Prop
  | takes event => event.phase = .waitingDescribe ∨ event.phase = phase
  | _ => True

/-- It has its place there, and a description none but behind a reset. -/
def FitsClosely (phase : QueryPhase) : Step → Prop
  | takes event => event.phase = phase
  | _ => True

instance (phase : QueryPhase) : DecidablePred (Fits phase)
  | takes event =>
    inferInstanceAs (Decidable (event.phase = .waitingDescribe ∨ event.phase = phase))
  | resets _ | begins | suspends => .isTrue trivial

instance (phase : QueryPhase) : DecidablePred (FitsClosely phase)
  | takes event => inferInstanceAs (Decidable (event.phase = phase))
  | resets _ | begins | suspends => .isTrue trivial

/-- The counters begin anew with it. -/
def renews : Step → Bool
  | resets _ | takes (.describe _) => true
  | _ => false

/-- It clears the page. -/
def clears : Step → Bool
  | resets _ | begins | takes (.describe _) | suspends => true
  | _ => false

/-- It forgets the length of the longest value in a column: with everything
else, or because the columns that it describes do not reach so far. -/
def forgets (column : Nat) : Step → Bool
  | resets _ => true
  | takes (.describe describe) => describe.head.columnCount.toNat ≤ column
  | _ => false

/-- It forgets everything. -/
def isReset : Step → Bool
  | resets _ => true
  | _ => false

/-- The row that it brings, if any. -/
def rows : Step → List Row
  | takes (.row row) => [row.values]
  | _ => []

end Step

/-- Each step has its place behind those before it, as a relation tells. -/
def Fitting (fits : QueryPhase → Step → Prop) : QueryPhase → List Step → Prop
  | _, [] => True
  | phase, step :: steps => fits phase step ∧ Fitting fits step.phaseAfter steps

instance instDecidableFitting {fits : QueryPhase → Step → Prop} [∀ phase, DecidablePred (fits phase)] :
    (phase : QueryPhase) → DecidablePred (Fitting fits phase)
  | _, [] => .isTrue trivial
  | phase, step :: steps =>
    have : Decidable (Fitting fits step.phaseAfter steps) := instDecidableFitting _ steps
    inferInstanceAs (Decidable (fits phase step ∧ Fitting fits step.phaseAfter steps))

/-- Descriptions and beginnings of pages may come at any time. -/
abbrev InOrder : QueryPhase → List Step → Prop :=
  Fitting Step.Fits

/-- Descriptions come directly behind a reset. -/
abbrev InCloseOrder : QueryPhase → List Step → Prop :=
  Fitting Step.FitsClosely

/-- A new result set after some steps. -/
def afterSteps (steps : List Step) : ResultSet :=
  steps.foldl Step.after {}

/-- Adds the rows of a step, or drops all if it is of a kind. -/
def gather (kind : Step → Bool) (rows : List Row) (step : Step) : List Row :=
  if kind step then [] else rows ++ step.rows

/-- The rows that were brought since the last step of a kind. -/
def rowsSince (kind : Step → Bool) (steps : List Step) : List Row :=
  steps.foldl (gather kind) []

theorem afterSteps_concat (front : List Step) (step : Step) :
    afterSteps (front ++ [step]) = step.after (afterSteps front) :=
  List.foldl_append

/-! ### Counters -/

/-- The first row is not behind the last; and while rows may arrive, none is counted. -/
structure Sits (rs : ResultSet) (phase : QueryPhase) : Prop where
  /-- The counters are in order. -/
  le : rs.firstRow ≤ rs.rowCount
  /-- An open page was begun behind the rows that are counted. -/
  opened : phase = .processingRows → rs.firstRow = rs.rowCount ∧ rs.pageStart = rs.rowCount

/-- The counters are not lower than those of an earlier page, and the end is not
taken back. -/
structure Advances (rs later : ResultSet) : Prop where
  /-- The first row does not move back. -/
  firstRow : rs.firstRow ≤ later.firstRow
  /-- No row is uncounted. -/
  rowCount : rs.rowCount ≤ later.rowCount
  /-- What has ended has ended. -/
  ended : rs.ended = true → later.ended = true

namespace Advances

variable {later last : ResultSet}

/-- Where the counters stay, they have not moved back. -/
theorem of_eq (firstRow : later.firstRow = rs.firstRow) (rowCount : later.rowCount = rs.rowCount)
    (ended : later.ended = rs.ended) : rs.Advances later :=
  ⟨Nat.le_of_eq firstRow.symm, Nat.le_of_eq rowCount.symm, ended.trans⟩

theorem trans (first : rs.Advances later) (second : later.Advances last) : rs.Advances last :=
  ⟨Nat.le_trans first.firstRow second.firstRow, Nat.le_trans first.rowCount second.rowCount,
    fun ended => second.ended (first.ended ended)⟩

end Advances

namespace Sits

theorem new : Sits {} .finished :=
  ⟨Nat.le_refl 0, fun _ => ⟨rfl, rfl⟩⟩

/-- An event that is in place finds its page open, unless it is a description. -/
theorem of_fits (sits : rs.Sits phase) {event : RowEvent}
    (fits : (Step.takes event).Fits phase) (place : event.phase = .processingRows) :
    rs.firstRow = rs.rowCount ∧ rs.pageStart = rs.rowCount := by
  rcases fits with described | placed
  · rw [place] at described
    contradiction
  · exact sits.opened (placed.symm.trans place)

/-- A step that has its place keeps the counters in order. -/
theorem step (sits : rs.Sits phase) {step : Step} (fits : step.Fits phase) :
    (step.after rs).Sits step.phaseAfter := by
  cases step with
  | resets nullsAsEmpty => exact ⟨Nat.le_refl 0, fun _ => ⟨rfl, rfl⟩⟩
  | begins => exact ⟨Nat.le_refl _, fun _ => ⟨rfl, rfl⟩⟩
  | suspends => exact ⟨sits.le, fun closed => by contradiction⟩
  | takes event =>
    cases event with
    | describe d => exact ⟨Nat.le_refl _, fun _ => ⟨rfl, rfl⟩⟩
    | outputBinds binds => exact ⟨sits.le, fun _ => sits.of_fits fits rfl⟩
    | row row => exact ⟨sits.le, fun _ => sits.of_fits fits rfl⟩
    | batchEnd batch => exact ⟨Nat.le_add_right _ _, fun closed => by contradiction⟩

/-- It moves them forward, unless they begin anew. -/
theorem advances_step (sits : rs.Sits phase) {step : Step} (fits : step.Fits phase)
    (kept : step.renews = false) : rs.Advances (step.after rs) := by
  cases step with
  | resets nullsAsEmpty => contradiction
  | begins => exact ⟨sits.le, Nat.le_refl _, fun ended => ended⟩
  | suspends => exact .of_eq rfl rfl rfl
  | takes event =>
    cases event with
    | describe d => contradiction
    | outputBinds binds => exact .of_eq rfl rfl rfl
    | row row => exact .of_eq rfl rfl rfl
    | batchEnd batch =>
      obtain ⟨first, start⟩ := sits.of_fits fits rfl
      -- a batch end skips forward, and never back
      have moved : rs.rowCount ≤ rs.pageStart + batch.rowsSkipped.toNat := by
        rw [start]
        exact Nat.le_add_right _ _
      refine ⟨first ▸ moved, Nat.le_trans moved (Nat.le_add_right _ _), fun ended => ?_⟩
      show (rs.ended || batch.endOfResultSet) = true
      rw [ended, Bool.true_or]

/-- So it is after any number of steps, and the others have their place there. -/
theorem foldl (sits : rs.Sits phase) {front later : List Step}
    (inOrder : InOrder phase (front ++ later)) :
    ∃ phase', (front.foldl Step.after rs).Sits phase' ∧ InOrder phase' later := by
  induction front generalizing rs phase with
  | nil => exact ⟨phase, sits, inOrder⟩
  | cons step front ih => exact ih (sits.step inOrder.1) inOrder.2

theorem advances (sits : rs.Sits phase) {steps : List Step} (inOrder : InOrder phase steps)
    (kept : ∀ step ∈ steps, step.renews = false) : rs.Advances (steps.foldl Step.after rs) := by
  induction steps generalizing rs phase with
  | nil => exact .of_eq rfl rfl rfl
  | cons step steps ih =>
    obtain ⟨here, rest⟩ := List.forall_mem_cons.mp kept
    exact (sits.advances_step inOrder.1 here).trans (ih (sits.step inOrder.1) inOrder.2 rest)

end Sits

/-! ### Rows -/

/-- The page has the rows that were brought since it was cleared. -/
theorem rows_afterSteps (steps : List Step) :
    (afterSteps steps).rows = rowsSince Step.clears steps := by
  refine List.foldl_rel (r := fun (rs : ResultSet) rows => rs.rows = rows) rfl ?_
  rintro step - rs rows rfl
  cases step with
  | resets | begins | suspends => rfl
  | takes event =>
    cases event with
    | describe | row => rfl
    | outputBinds | batchEnd => exact (List.append_nil _).symm

theorem isSome_bufferedRow (rs : ResultSet) (row : Nat) :
    (rs.bufferedRow row).isSome ↔ rs.firstRow ≤ row ∧ row < rs.firstRow + rs.rows.length := by
  rw [bufferedRow]
  split
  · next before => simp only [Option.isSome_none, Bool.false_eq_true, false_iff]; omega
  · next inside =>
    rw [isSome_getElem?]
    omega

/-! ### Lengths -/

/-- The length of the value in a column of a row; zero for null and behind its end. -/
def valueLength (column : Nat) (values : Row) : Nat :=
  (values[column]?.join.map List.length).getD 0

/-- The length of the longest value in a column of some rows. -/
def longestOf (column : Nat) (rows : List Row) : Nat :=
  (rows.map (valueLength column)).foldl max 0

theorem longestOf_concat (column : Nat) (rows : List Row) (values : Row) :
    longestOf column (rows ++ [values]) =
      max (longestOf column rows) (valueLength column values) := by
  rw [longestOf, List.map_append, List.foldl_append]
  rfl

/-- A row widens each column to its value. -/
theorem getD_widen (lengths : List Nat) (values : Row) (column : Nat) :
    ((widen lengths values)[column]?).getD 0 =
      max (lengths[column]?.getD 0) (valueLength column values) := by
  have padded : ((lengths ++ List.replicate (values.length - lengths.length) 0)[column]?).getD 0 =
      lengths[column]?.getD 0 := by
    rw [List.getElem?_append]
    split
    · rfl
    · next beyond =>
      rw [List.getElem?_eq_none (Nat.le_of_not_lt beyond), List.getElem?_replicate]
      split <;> rfl
  simp only [widen, List.getElem?_map, List.getElem?_zipIdx]
  rcases found : (lengths ++ List.replicate (values.length - lengths.length) 0)[column]? with
    - | length
  · -- the lengths reach as far as the row
    rw [List.getElem?_eq_none_iff, List.length_append, List.length_replicate] at found
    have short : lengths[column]? = none := List.getElem?_eq_none (by omega)
    have narrow : values[column]? = none := List.getElem?_eq_none (by omega)
    rw [valueLength, short, narrow]
    rfl
  · rw [found] at padded
    rw [← padded]
    simp [valueLength]

/-- A description keeps the lengths of the columns that it reaches. -/
theorem getD_resizeTo (count : Nat) (lengths : List Nat) (column : Nat) :
    ((resizeTo count lengths)[column]?).getD 0 =
      if count ≤ column then 0 else lengths[column]?.getD 0 := by
  rw [resizeTo, List.getElem?_append, List.getElem?_replicate, List.length_take,
    List.getElem?_take]
  grind

/-- A step does to the length for a column what it does to the rows. -/
theorem getD_longest_step {column : Nat} {rows : List Row}
    (same : rs.longest[column]?.getD 0 = longestOf column rows) (step : Step) :
    ((step.after rs).longest[column]?).getD 0 =
      longestOf column (gather (Step.forgets column) rows step) := by
  have unchanged : rs.longest[column]?.getD 0 = longestOf column (rows ++ []) := by
    rw [List.append_nil]
    exact same
  cases step with
  | resets => rfl
  | begins | suspends => exact unchanged
  | takes event =>
    cases event with
    | describe d =>
      have resized := getD_resizeTo d.head.columnCount.toNat rs.longest column
      -- a narrower description forgets the columns that it lacks, a wider one keeps all
      by_cases short : d.head.columnCount.toNat ≤ column
      · rw [if_pos short] at resized
        rw [gather, if_pos (show (Step.takes (.describe d)).forgets column from decide_eq_true short)]
        exact resized
      · rw [if_neg short, unchanged] at resized
        rw [gather, if_neg (by simpa [Step.forgets] using short)]
        exact resized
    | row row =>
      show ((widen rs.longest row.values)[column]?).getD 0 =
        longestOf column (rows ++ [row.values])
      rw [getD_widen, longestOf_concat, same]
    | outputBinds | batchEnd => exact unchanged

/-- The length for a column is that of its longest value since it was forgotten. -/
theorem getD_longest_afterSteps (column : Nat) (steps : List Step) :
    ((afterSteps steps).longest[column]?).getD 0 =
      longestOf column (rowsSince (Step.forgets column) steps) := by
  refine List.foldl_rel
    (r := fun (rs : ResultSet) rows => rs.longest[column]?.getD 0 = longestOf column rows) rfl ?_
  intro step _ rs rows same
  exact getD_longest_step same step

theorem longestIn_index {column : Nat} (reached : column < rs.columnCount) :
    rs.longestIn (.index column) = rs.longest[column]?.getD 0 := by
  rw [longestIn, columnIndex, if_pos reached]
  rfl

/-- A description that comes directly behind a reset finds no row to forget. -/
theorem rowsSince_forgets {steps : List Step} (inOrder : InCloseOrder phase steps) (column : Nat) :
    rowsSince (Step.forgets column) steps = rowsSince Step.isReset steps := by
  suffices ∀ rows : List Row, (phase = .waitingDescribe → rows = []) →
      steps.foldl (gather (Step.forgets column)) rows = steps.foldl (gather Step.isReset) rows from
    this [] fun _ => rfl
  induction steps generalizing phase with
  | nil => exact fun _ _ => rfl
  | cons step steps ih =>
    intro rows empty
    obtain ⟨fits, rest⟩ := inOrder
    have next := ih rest
    cases step with
    | resets => exact next [] fun _ => rfl
    | begins | suspends => exact next (rows ++ []) fun behind => by contradiction
    | takes event =>
      cases event with
      | describe d =>
        -- no row has come between the reset and the description
        obtain rfl := empty fits.symm
        have nothing : gather (Step.forgets column) [] (.takes (.describe d)) = [] :=
          ite_self _
        rw [List.foldl_cons, nothing]
        exact next [] fun _ => rfl
      | row row => exact next (rows ++ [row.values]) fun behind => by contradiction
      | outputBinds | batchEnd => exact next (rows ++ []) fun behind => by contradiction

/-! ### All orders of the steps -/

/-- **The window of a result set**, after any steps in order, with any numbers and rows
from the server.  At the end of a batch it has just the rows that were brought since
the page was cleared, counted from the first; the counters and the end go only forward, up
to a description or a reset and also where an answer breaks off; a page that was given up has no
row and keeps its counters and its identifier; and the length for a column is that of the
longest value since the column was forgotten, which is since the reset where descriptions come
directly behind one. -/
theorem window_of_inOrder {steps : List Step} (inOrder : InOrder .finished steps) :
    (∀ front batch, steps = front ++ [.takes (.batchEnd batch)] →
      (afterSteps steps).rows = rowsSince Step.clears steps ∧
        (afterSteps steps).rowCount = (afterSteps steps).firstRow + (afterSteps steps).rows.length ∧
        ∀ row, ((afterSteps steps).bufferedRow row).isSome ↔
          (afterSteps steps).firstRow ≤ row ∧ row < (afterSteps steps).rowCount) ∧
      (∀ front later, steps = front ++ later → (∀ step ∈ later, step.renews = false) →
        (afterSteps front).Advances (afterSteps steps)) ∧
      (∀ front, steps = front ++ [.suspends] →
        (∀ row, (afterSteps steps).bufferedRow row = none) ∧
          (afterSteps steps).firstRow = (afterSteps front).firstRow ∧
          (afterSteps steps).rowCount = (afterSteps front).rowCount ∧
          (afterSteps steps).id = (afterSteps front).id) ∧
      (∀ column < (afterSteps steps).columnCount,
        (afterSteps steps).longestIn (.index column) =
          longestOf column (rowsSince (Step.forgets column) steps)) ∧
      (InCloseOrder .finished steps → ∀ column < (afterSteps steps).columnCount,
        (afterSteps steps).longestIn (.index column) =
          longestOf column (rowsSince Step.isReset steps)) := by
  have longest (column : Nat) (reached : column < (afterSteps steps).columnCount) :
      (afterSteps steps).longestIn (.index column) =
        longestOf column (rowsSince (Step.forgets column) steps) := by
    rw [longestIn_index reached, getD_longest_afterSteps]
  refine ⟨?_, ?_, ?_, longest, ?_⟩
  · -- behind a batch end
    rintro front batch rfl
    have counted : (afterSteps (front ++ [.takes (.batchEnd batch)])).rowCount =
        (afterSteps (front ++ [.takes (.batchEnd batch)])).firstRow +
          (afterSteps (front ++ [.takes (.batchEnd batch)])).rows.length := by
      rw [afterSteps_concat]
      rfl
    refine ⟨rows_afterSteps _, counted, fun row => ?_⟩
    rw [isSome_bufferedRow, counted]
  · -- as long as no other result set is begun
    rintro front later rfl kept
    obtain ⟨phase, sits, rest⟩ := Sits.new.foldl inOrder
    have advances := sits.advances rest kept
    rw [← List.foldl_append] at advances
    exact advances
  · -- behind a suspension
    rintro front rfl
    rw [afterSteps_concat]
    exact ⟨bufferedRow_of_nil rfl, rfl, rfl, rfl⟩
  · -- without narrower descriptions every row since the reset counts
    intro closely column reached
    rw [longest column reached, rowsSince_forgets closely]

namespace Step

/-- A result set with a number of columns is described. -/
def describes (columns : UInt16) : Step :=
  takes (.describe ⟨⟨7, 0, -1, -1, 0, columns⟩, [], []⟩)

/-- A row with these values arrives. -/
def brings (values : Row) : Step :=
  takes (.row (.ofValues values))

theorem rows_brings (first second : Bytes) (short : first.length < 2 ^ 31 ∧ second.length < 2 ^ 31) :
    (brings [some first, some second]).rows = [[some first, some second]] := by
  have values : (DataRow.ofValues [some first, some second]).values = [some first, some second] := by
    refine DataRow.valuesIn_flatMap ?_
    rintro value (- | ⟨_, - | ⟨_, ⟨⟩⟩⟩) bytes ⟨⟩
    · exact short.1
    · exact short.2
  exact congrArg ([·]) values

/-- A batch ends, in front of which rows were skipped. -/
def ends (skipped : UInt64) (ended : Bool) : Step :=
  takes (.batchEnd ⟨ended, skipped⟩)

end Step

/-- A page of two rows, and another of one behind two that were skipped. -/
def twoPages : List Step :=
  [.resets false, .describes 2, .brings [some [49], some [97]],
    .brings [some [50], some [98, 98, 98, 98]], .ends 0 false, .begins,
    .brings [some [53], some [99, 99]], .ends 2 true]

/-- The second page shows the fifth row, and the longest value is still that of the first. -/
theorem window_of_twoPages :
    InOrder .finished twoPages ∧ InCloseOrder .finished twoPages ∧
      (∀ row, ((afterSteps twoPages).bufferedRow row).isSome ↔ 4 ≤ row ∧ row < 5) ∧
      (afterSteps twoPages).longestIn (.index 1) = 4 := by
  have inOrder : InOrder .finished twoPages := by decide
  have closely : InCloseOrder .finished twoPages := by decide
  obtain ⟨complete, -, -, -, longest⟩ := window_of_inOrder inOrder
  have first : (afterSteps twoPages).firstRow = 4 := by decide
  have count : (afterSteps twoPages).rowCount = 5 := by decide
  obtain ⟨-, -, shown⟩ := complete (twoPages.take 7) ⟨true, 2⟩ rfl
  rw [first, count] at shown
  refine ⟨inOrder, closely, shown, ?_⟩
  rw [longest closely 1 (by decide)]
  show longestOf 1 ((Step.brings _).rows ++ (Step.brings _).rows ++ (Step.brings _).rows) = 4
  rw [Step.rows_brings _ _ (by decide), Step.rows_brings _ _ (by decide),
    Step.rows_brings _ _ (by decide)]
  decide

/-- A result set of two columns, which is described again with one column, and with two. -/
def narrowed : List Step :=
  [.resets false, .describes 2, .brings [some [97], some [98, 98, 98, 98]], .ends 0 false,
    .describes 1, .ends 0 false, .describes 2, .ends 0 false]

/-- The longest value since the reset is forgotten there. -/
theorem longestIn_narrowed :
    InOrder .finished narrowed ∧ 1 < (afterSteps narrowed).columnCount ∧
      (afterSteps narrowed).longestIn (.index 1) = 0 ∧
      longestOf 1 (rowsSince Step.isReset narrowed) = 4 := by
  refine ⟨by decide, by decide, ?_, ?_⟩
  · rw [longestIn_index (by decide), getD_longest_afterSteps]
    decide
  · show longestOf 1 (Step.brings _).rows = 4
    rw [Step.rows_brings _ _ (by decide)]
    decide

end ProxyClient.ResultSet
