import Provisioning.Session

/-!
# Runs of actions

`Runs action before outcome after` says that an action takes a session to an outcome
and another session. Every action has exactly one run from a session
(`Runs.exists_run`, `Runs.unique`), and the run of a composed action comes apart into the
runs of its parts (`Runs.bind_inv`, `Runs.tryCatch_inv` and the inversions of the basic
actions), so that a walk through an action names every session on the way.
-/

namespace Provisioning

/-- The action takes a session to an outcome and another session. -/
def Runs {α : Type} (action : Action α) (before : Session) (outcome : Except Failure α)
    (after : Session) : Prop :=
  StateT.run (ExceptT.run action) before = (outcome, after)

namespace Runs

variable {α β : Type} {action : Action α} {next : α → Action β} {before middle after : Session}

/-- What an action computes is its run. -/
theorem run (action : Action α) (before : Session) :
    Runs action before (StateT.run (ExceptT.run action) before).1
      (StateT.run (ExceptT.run action) before).2 := rfl

theorem exists_run (action : Action α) (before : Session) :
    ∃ outcome after, Runs action before outcome after :=
  ⟨_, _, run action before⟩

theorem unique {outcome outcome' : Except Failure α} {after' : Session}
    (run : Runs action before outcome after) (run' : Runs action before outcome' after') :
    outcome = outcome' ∧ after = after' :=
  Prod.mk.inj (run.symm.trans run')

/-! ## Composition -/

theorem bind {value : α} {outcome : Except Failure β} (first : Runs action before (.ok value) middle)
    (rest : Runs (next value) middle outcome after) :
    Runs (action >>= next) before outcome after := by
  unfold Runs at *
  simp only [ExceptT.run_bind, StateT.run_bind, first]
  exact rest

theorem bind_error {failure : Failure} (first : Runs action before (.error failure) after) :
    Runs (action >>= next) before (.error failure) after := by
  unfold Runs at *
  simp only [ExceptT.run_bind, StateT.run_bind, first]
  rfl

/-- A run of two actions in sequence is a run of both, or one of the first that fails. -/
theorem bind_inv {outcome : Except Failure β} (run : Runs (action >>= next) before outcome after) :
    (∃ value middle, Runs action before (.ok value) middle ∧
      Runs (next value) middle outcome after) ∨
    ∃ failure, Runs action before (.error failure) after ∧ outcome = .error failure := by
  obtain ⟨first, middle, firstRun⟩ := exists_run action before
  cases first with
  | ok value =>
    obtain ⟨last, after', rest⟩ := exists_run (next value) middle
    obtain ⟨rfl, rfl⟩ := unique run (bind firstRun rest)
    exact .inl ⟨value, middle, firstRun, rest⟩
  | error failure =>
    obtain ⟨rfl, rfl⟩ := unique run (bind_error firstRun)
    exact .inr ⟨failure, firstRun, rfl⟩

/-- The first of two actions in sequence ends in some way, and what comes behind it depends on
which. -/
theorem bind_ends {outcome : Except Failure β} (run : Runs (action >>= next) before outcome after) :
    ∃ result middle, Runs action before result middle ∧
      ((∃ value, result = .ok value ∧ Runs (next value) middle outcome after) ∨
        ∃ failure, result = .error failure ∧ outcome = .error failure) := by
  rcases run.bind_inv with ⟨value, middle, first, rest⟩ | ⟨failure, first, isError⟩
  · exact ⟨_, middle, first, .inl ⟨value, rfl, rest⟩⟩
  · exact ⟨_, after, first, .inr ⟨failure, rfl, isError⟩⟩

theorem tryCatch_ok {value : α} {handler : Failure → Action α}
    (run : Runs action before (.ok value) after) :
    Runs (tryCatch action handler) before (.ok value) after := by
  unfold Runs at *
  show StateT.run (ExceptT.run (ExceptT.tryCatch action handler)) before = _
  simp only [ExceptT.tryCatch, ExceptT.run_mk, StateT.run_bind]
  rw [show StateT.run action before = _ from run]
  rfl

theorem tryCatch_error {failure : Failure} {outcome : Except Failure α}
    {handler : Failure → Action α} (run : Runs action before (.error failure) middle)
    (handled : Runs (handler failure) middle outcome after) :
    Runs (tryCatch action handler) before outcome after := by
  unfold Runs at *
  show StateT.run (ExceptT.run (ExceptT.tryCatch action handler)) before = _
  simp only [ExceptT.tryCatch, ExceptT.run_mk, StateT.run_bind]
  rw [show StateT.run action before = _ from run]
  exact handled

theorem tryCatch_inv {outcome : Except Failure α} {handler : Failure → Action α}
    (run : Runs (tryCatch action handler) before outcome after) :
    (∃ value, Runs action before (.ok value) after ∧ outcome = .ok value) ∨
    ∃ failure middle, Runs action before (.error failure) middle ∧
      Runs (handler failure) middle outcome after := by
  obtain ⟨first, middle, firstRun⟩ := exists_run action before
  cases first with
  | ok value =>
    obtain ⟨rfl, rfl⟩ := unique run (tryCatch_ok firstRun)
    exact .inl ⟨value, firstRun, rfl⟩
  | error failure =>
    obtain ⟨last, after', handled⟩ := exists_run (handler failure) middle
    obtain ⟨rfl, rfl⟩ := unique run (tryCatch_error firstRun handled)
    exact .inr ⟨failure, middle, firstRun, handled⟩

/-! ## Basic actions -/

theorem pure_inv {value : α} {outcome : Except Failure α}
    (run : Runs (pure value) before outcome after) : outcome = .ok value ∧ after = before := by
  obtain ⟨rfl, rfl⟩ := Prod.mk.inj run
  exact ⟨rfl, rfl⟩

theorem throw_inv {failure : Failure} {outcome : Except Failure α}
    (run : Runs (throw failure) before outcome after) :
    outcome = .error failure ∧ after = before := by
  obtain ⟨rfl, rfl⟩ := Prod.mk.inj run
  exact ⟨rfl, rfl⟩

theorem get_inv {outcome : Except Failure Session} (run : Runs get before outcome after) :
    outcome = .ok before ∧ after = before := by
  obtain ⟨rfl, rfl⟩ := Prod.mk.inj run
  exact ⟨rfl, rfl⟩

theorem modify_inv {change : Session → Session} {outcome : Except Failure PUnit}
    (run : Runs (modify change) before outcome after) :
    outcome = .ok ⟨⟩ ∧ after = change before := by
  obtain ⟨rfl, rfl⟩ := Prod.mk.inj run
  exact ⟨rfl, rfl⟩

theorem require_inv {value : Except Fault α} {outcome : Except Failure α}
    (run : Runs (Session.require value) before outcome after) :
    outcome = value.mapError .fault ∧ after = before := by
  cases value with
  | ok a => exact pure_inv run
  | error fault => exact throw_inv run

/-! ## Basic actions in front of others -/

/-- What is read from the session at the start of an action. -/
theorem get_bind {outcome : Except Failure β} {next : Session → Action β}
    (run : Runs (get >>= next) before outcome after) :
    Runs (next before) before outcome after := run

theorem pure_bind {outcome : Except Failure β} {value : α}
    (run : Runs (pure value >>= next) before outcome after) :
    Runs (next value) before outcome after := run

theorem modify_bind {change : Session → Session} {outcome : Except Failure β}
    {next : PUnit → Action β} (run : Runs (modify change >>= next) before outcome after) :
    Runs (next ⟨⟩) (change before) outcome after := run

theorem set_bind {session : Session} {outcome : Except Failure β}
    {next : PUnit → Action β} (run : Runs (set session >>= next) before outcome after) :
    Runs (next ⟨⟩) session outcome after := run

theorem throw_bind {failure : Failure} {outcome : Except Failure β}
    (run : Runs ((throw failure : Action α) >>= next) before outcome after) :
    outcome = .error failure ∧ after = before := throw_inv run

theorem record_bind {happening : Happening} {outcome : Except Failure β}
    {next : PUnit → Action β}
    (run : Runs (Session.record happening >>= next) before outcome after) :
    Runs (next ⟨⟩) { before with journal := before.journal ++ [happening] } outcome after := run

/-- An action behind a guard goes on, or ends in the failure of the guard. -/
theorem guard_inv {condition : Prop} {_ : Decidable condition} {failure : Failure}
    {outcome : Except Failure β} {next : PUnit → Action β}
    (run : Runs (if condition then throw failure >>= next else next ⟨⟩) before outcome after) :
    (condition ∧ outcome = .error failure ∧ after = before) ∨
    (¬condition ∧ Runs (next ⟨⟩) before outcome after) := by
  split at run
  · next holds => exact .inl ⟨holds, throw_bind run⟩
  · next fails => exact .inr ⟨fails, run⟩

theorem note_bind {level : Level} {source : Source} {text : String} {outcome : Except Failure β}
    {next : PUnit → Action β}
    (run : Runs (Session.note level source text >>= next) before outcome after) :
    Runs (next ⟨⟩) { before with journal := before.journal ++ [.noted level source text] }
      outcome after := run

/-- An action that needs a value goes on with it, or ends in the fault it has. -/
theorem require_bind {value : Except Fault α} {outcome : Except Failure β}
    (run : Runs (Session.require value >>= next) before outcome after) :
    (∃ a, value = .ok a ∧ Runs (next a) before outcome after) ∨
    ∃ fault, value = .error fault ∧ outcome = .error (.fault fault) ∧ after = before := by
  cases value with
  | ok a => exact .inl ⟨a, rfl, run⟩
  | error fault => exact .inr ⟨fault, rfl, throw_inv run⟩

theorem require_ok_bind {value : α} {outcome : Except Failure β}
    (run : Runs (Session.require (.ok value) >>= next) before outcome after) :
    Runs (next value) before outcome after := run

/-- The time that is read at the start of an action. -/
theorem unixTime_bind {outcome : Except Failure β} {next : Int → Action β}
    (run : Runs (Session.unixTime >>= next) before outcome after) :
    Runs (Session.require before.clock.unix >>= next) before outcome after := run

/-! ## Runs that end in a value -/

theorem bind_ok_inv {value : β} (run : Runs (action >>= next) before (.ok value) after) :
    ∃ a middle, Runs action before (.ok a) middle ∧ Runs (next a) middle (.ok value) after := by
  rcases run.bind_inv with done | ⟨failure, -, same⟩
  · exact done
  · cases same

theorem pure_ok_inv {value result : α} (run : Runs (pure value) before (.ok result) after) :
    value = result ∧ after = before :=
  ⟨(Except.ok.inj run.pure_inv.1).symm, run.pure_inv.2⟩

theorem not_throw_ok {failure : Failure} {value : α} :
    ¬Runs (throw failure : Action α) before (.ok value) after := by
  intro run
  cases run.throw_inv.1

theorem not_throw_bind_ok {failure : Failure} {value : β} :
    ¬Runs ((throw failure : Action α) >>= next) before (.ok value) after := by
  intro run
  cases run.throw_bind.1

theorem require_bind_ok_inv {value : Except Fault α} {result : β}
    (run : Runs (Session.require value >>= next) before (.ok result) after) :
    ∃ a, value = .ok a ∧ Runs (next a) before (.ok result) after := by
  rcases run.require_bind with done | ⟨fault, -, same, -⟩
  · exact done
  · cases same

end Runs

end Provisioning
