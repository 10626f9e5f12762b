/-
ProxyClient/Proofs/Cursor/Checking.lean

Statements that are not sent because of their bind variables.  The check comes between
the closing of the former result set and the request:

    close  →  expand  →  check  →  (target)  →  execute

If it fails, the statement ends there (`Cursor.execute_of_rejected`): the session is as the
closing left it.  It fails for every name that does not stand in the statement, but
of the positions it knows only the highest, and lets every one below it pass
(`Cursor.rejects_absent`):

    statement        variables that pass
    select :a, ?     a, positions 0 and 1
    select $3        positions 0 to 3
    select 'x'       position 0
-/
import ProxyClient.Proofs.Bind.Keys
import ProxyClient.Proofs.Cursor.Deeds

namespace ProxyClient.Cursor

open Statement

variable {ν : Type} [Network ν] {cursor : Cursor ν}

/-- A statement whose variables are rejected ends when the former result set is closed. -/
theorem runStatement_of_rejected {binds : BindSet} {e : Error} (checks : cursor.validates = true)
    (fails : binds.validate (cursor.substitutions.expand cursor.sql) = .error e) :
    (runStatement binds cursor).state = cursor.close.state ∧
      (runStatement binds cursor).toExcept = cursor.close.toExcept.bind fun _ => .error e := by
  obtain ⟨session, disk, left⟩ := state_close cursor
  rw [runStatement]
  rcases closed : cursor.close with ⟨⟨⟩, after⟩ | ⟨e', after⟩
  · -- closing has changed neither the statement nor whether it is checked
    have after_eq : after = cursor.close.state := by rw [closed]; rfl
    have rejected : after.checkBinds (after.substitutions.expand after.sql) binds = .error e := by
      rw [after_eq, left, checkBinds, if_pos checks]
      exact fails
    simp only [rejected]
    exact ⟨rfl, rfl⟩
  · exact ⟨rfl, rfl⟩

/-- Nothing is sent for it but what the closing sends. -/
theorem execute_of_rejected {e : Error} (checks : cursor.validates = true)
    (fails : cursor.binds.validate (cursor.substitutions.expand cursor.sql) = .error e) :
    let closed := ({ cursor with error := none } : Cursor ν).close
    cursor.execute.state.session = closed.state.session ∧
      cursor.execute.toExcept = (closed.toExcept.bind fun _ => .error e) ∧
      (cursor.IsSilent → cursor.execute.state.session = cursor.session) := by
  obtain ⟨state_eq, toExcept_eq⟩ :=
    @runStatement_of_rejected ν _ { cursor with error := none } cursor.binds e checks fails
  obtain ⟨error, noted, ends⟩ := noting_cases (runStatement cursor.binds) cursor
  have session_eq : cursor.execute.state.session =
      ({ cursor with error := none } : Cursor ν).close.state.session := by
    rw [execute, noted, state_eq]
  refine ⟨session_eq, ends.trans toExcept_eq, fun silent => session_eq.trans ?_⟩
  have silent' : ({ cursor with error := none } : Cursor ν).IsSilent := silent
  exact silent'.session_close

/-- **A variable that does not stand in the statement is an error, and the statement is
not sent**: if it has a name, or a position above all that stand there.  Else it is not
noticed. -/
theorem rejects_absent {sql : String} {pieces : List Piece} (reads : Reads sql.toList pieces)
    {before after : List Bind} {entry : Bind} (absent : ¬ Stands pieces entry.key) :
    ((∀ n, entry.key = .position n → highest pieces < n.toNat) →
      ∃ first ∈ before ++ entry :: after,
        (⟨before ++ entry :: after⟩ : BindSet).validate sql =
          .error (.unknownPlaceholder first.key.wireName) ∧
        ∀ cursor : Cursor ν, cursor.validates = true →
          cursor.binds = ⟨before ++ entry :: after⟩ →
          cursor.substitutions.expand cursor.sql = sql →
          let closed := ({ cursor with error := none } : Cursor ν).close
          cursor.execute.state.session = closed.state.session ∧
            cursor.execute.toExcept =
              (closed.toExcept.bind fun _ => .error (.unknownPlaceholder first.key.wireName)) ∧
            (cursor.IsSilent → cursor.execute.state.session = cursor.session)) ∧
    (∀ n, entry.key = .position n → n.toNat ≤ highest pieces →
      (⟨before ++ entry :: after⟩ : BindSet).validate sql =
        (⟨before ++ after⟩ : BindSet).validate sql) := by
  refine ⟨fun above => ?_, fun n position below => ?_⟩
  · have member : entry ∈ (⟨before ++ entry :: after⟩ : BindSet).entries :=
      List.mem_append_right _ List.mem_cons_self
    obtain ⟨first, inside, -, fails⟩ :=
      BindSet.validate_of_not_contained (not_contains_of_not_stands reads absent above) member
    refine ⟨first, inside, fails, fun cursor checks binds_eq expands => ?_⟩
    refine execute_of_rejected checks ?_
    rw [binds_eq, expands, fails]
  · refine BindSet.validate_between ?_
    rw [position]
    exact (contains_position_iff reads n).mpr below

/-- The variable `b` does not stand in the statement, nor does the position 1, which is
below the highest. -/
theorem rejects_absent_numbered :
    let binds : BindSet := ⟨[BindSet.integerBind "A", BindSet.integerBind "b"]⟩
    let cursor : Cursor ScriptedNetwork :=
      { onSession (Session.scripted [] []) {} 0 with sql := "$2:a", binds, validates := true }
    cursor.execute.toExcept = .error (.unknownPlaceholder "b") ∧
      cursor.execute.state.session = cursor.session ∧
      (⟨[BindSet.integerBind "1"]⟩ : BindSet).validate "$2:a" = .ok () := by
  intro binds cursor
  -- how the statement reads: a number, then a name
  have reads : Reads "$2:a".toList [.placeholder '$' ['2'], .placeholder ':' ['a']] :=
    @Reads.piece (.placeholder '$' ['2']) [':', 'a'] _ (by decide)
      (@Reads.piece (.placeholder ':' ['a']) [] _ (by decide) .done)
  have named : ¬ Stands [.placeholder '$' ['2'], .placeholder ':' ['a']]
      (BindSet.integerBind "b").key := by decide
  have numbered : ¬ Stands [.placeholder '$' ['2'], .placeholder ':' ['a']]
      (BindSet.integerBind "1").key := by decide
  obtain ⟨first, -, fails, stops⟩ :=
    (@rejects_absent ScriptedNetwork _ _ _ reads [BindSet.integerBind "A"] [] _ named).1
      (fun _ position => by contradiction)
  obtain ⟨-, ends, silent⟩ := stops cursor rfl rfl (by decide +kernel)
  have rejected : binds.validate "$2:a" = .error (.unknownPlaceholder "b") := by decide +kernel
  have passes := (@rejects_absent ScriptedNetwork _ _ _ reads [] [] _ numbered).2 1 (by decide)
    (by decide)
  refine ⟨?_, silent (.inl (.inl rfl)), passes⟩
  rw [ends, ← fails]
  exact rejected

/-- The position 1 passes though only `$2` stands in the statement. -/
theorem absent_position_passes :
    ¬ ∀ (sql : String) (pieces : List Piece) (set : BindSet) (entry : Bind),
      Reads sql.toList pieces → entry ∈ set.entries → ¬ Stands pieces entry.key →
        ∃ name, set.validate sql = .error (.unknownPlaceholder name) := by
  intro rejects
  have reads : Reads "$2".toList [.placeholder '$' ['2']] :=
    @Reads.piece (.placeholder '$' ['2']) [] _ (by decide) .done
  obtain ⟨name, rejected⟩ := rejects "$2" _ ⟨[BindSet.integerBind "1"]⟩ _ reads
    List.mem_cons_self (by decide)
  have passed : (⟨[BindSet.integerBind "1"]⟩ : BindSet).validate "$2" = .ok () := by
    decide +kernel
  exact absurd (passed.symm.trans rejected) (by simp)

end ProxyClient.Cursor
