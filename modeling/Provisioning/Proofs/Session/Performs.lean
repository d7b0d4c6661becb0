import Provisioning.Proofs.Session.Moves

/-!
# What an action performs

`Performs action before outcome moves after` says that an action ends in an outcome, makes
exactly these moves, and leaves a session that is `after` but for the journal. It holds
whatever stands in the journal before, so actions in sequence perform one after the other
(`Performs.bind`), and what is only noted disappears (`Performs.note_bind`). This is the way
to run an action forward, where the inversions of runs take one apart.
-/

namespace Provisioning

open Contract Session

/-! ## Answers that are had at once -/

namespace Session

variable {before : Session} {peers : Peers}

theorem runs_takeAnswer {method path : String} {reply : Reply}
    (taken : before.peers.take method path = (⟨[], reply⟩, peers)) :
    Runs (takeAnswer method path) before (.ok reply) { before with peers } := by
  have run : Runs (modify (fun session : Session =>
      { session with peers := (before.peers.take method path).2 }) >>= fun _ =>
        (before.peers.take method path).1.delays.forM advance >>= fun _ =>
          pure (before.peers.take method path).1.reply) before (.ok reply) { before with peers } := by
    rw [taken]
    rfl
  exact run

theorem runs_respond {service : Service} {request : Http.Request} {response : Http.Response}
    (served : before.peers.serve before.chain.keys service request = .ok (response, peers)) :
    Runs (respond request (.serve service)) before (.ok response) { before with peers } := by
  have run : Runs (require (before.peers.serve before.chain.keys service request) >>=
      fun served => modify (fun session : Session => { session with peers := served.2 }) >>=
        fun _ => pure served.1) before (.ok response) { before with peers } := by
    rw [served]
    rfl
  exact run

end Session

/-! ## Actions that perform -/

/-- From a session with any journal, the action ends in the outcome, makes exactly these
moves, and leaves `after` but for the journal. -/
def Performs {α : Type} (action : Action α) (before : Session) (outcome : Except Failure α)
    (moves : List Move) (after : Session) : Prop :=
  ∀ journal, ∃ new, new.filter Happening.isOutside = moves.flatMap Move.trace ∧
    Runs action { before with journal } outcome { after with journal := journal ++ new }

namespace Performs

variable {α β : Type} {action : Action α} {next : α → Action β} {value : α}
variable {moves more : List Move} {before middle after : Session}

/-- What is performed is the run of the action from the session as it is. -/
theorem runs {outcome : Except Failure α} (performs : Performs action before outcome moves after) :
    ∃ journal, Runs action before outcome { after with journal } ∧
      Makes moves before { after with journal } := by
  obtain ⟨new, isNew, run⟩ := performs before.journal
  exact ⟨before.journal ++ new, run, new, rfl, isNew⟩

/-- An action that writes nothing down. -/
theorem of_steady {outcome : Except Failure α}
    (run : ∀ journal, Runs action { before with journal } outcome { after with journal }) :
    Performs action before outcome [] after := by
  intro journal
  refine ⟨[], rfl, ?_⟩
  rw [List.append_nil]
  exact run journal

/-- An action that writes one move down. -/
theorem of_trace {outcome : Except Failure α} {move : Move}
    (run : ∀ journal, Runs action { before with journal } outcome
      { after with journal := journal ++ move.trace }) :
    Performs action before outcome [move] after := by
  intro journal
  refine ⟨move.trace, ?_, run journal⟩
  rw [List.filter_eq_self.mpr Move.isOutside_of_mem_trace, List.flatMap_singleton]

/-! ## Composition -/

theorem bind {outcome : Except Failure β} (first : Performs action before (.ok value) moves middle)
    (rest : Performs (next value) middle outcome more after) :
    Performs (action >>= next) before outcome (moves ++ more) after := by
  intro journal
  obtain ⟨early, isEarly, firstRun⟩ := first journal
  obtain ⟨late, isLate, restRun⟩ := rest (journal ++ early)
  refine ⟨early ++ late, by rw [List.filter_append, isEarly, isLate, List.flatMap_append], ?_⟩
  rw [← List.append_assoc]
  exact firstRun.bind restRun

theorem bind_error {failure : Failure}
    (first : Performs action before (.error failure) moves after) :
    Performs (action >>= next) before (.error failure) moves after := by
  intro journal
  obtain ⟨new, isNew, run⟩ := first journal
  exact ⟨new, isNew, run.bind_error⟩

/-- What makes no move goes unseen in front of others. -/
theorem quiet_bind {outcome : Except Failure β} (first : Performs action before (.ok value) [] middle)
    (rest : Performs (next value) middle outcome moves after) :
    Performs (action >>= next) before outcome moves after :=
  first.bind rest

/-- An action is not changed by what makes no move and keeps its value. -/
theorem bind_quiet {outcome : Except Failure β} (first : Performs action before (.ok value) moves middle)
    (rest : Performs (next value) middle outcome [] after) :
    Performs (action >>= next) before outcome moves after := by
  have both := first.bind rest
  rwa [List.append_nil] at both

theorem tryCatch_ok {handler : Failure → Action α}
    (performs : Performs action before (.ok value) moves after) :
    Performs (tryCatch action handler) before (.ok value) moves after := by
  intro journal
  obtain ⟨new, isNew, run⟩ := performs journal
  exact ⟨new, isNew, run.tryCatch_ok⟩

theorem tryCatch_error {failure : Failure} {outcome : Except Failure α}
    {handler : Failure → Action α} (performs : Performs action before (.error failure) moves middle)
    (handled : Performs (handler failure) middle outcome more after) :
    Performs (tryCatch action handler) before outcome (moves ++ more) after := by
  intro journal
  obtain ⟨early, isEarly, run⟩ := performs journal
  obtain ⟨late, isLate, handledRun⟩ := handled (journal ++ early)
  refine ⟨early ++ late, by rw [List.filter_append, isEarly, isLate, List.flatMap_append], ?_⟩
  rw [← List.append_assoc]
  exact run.tryCatch_error handledRun

/-! ## Basic actions -/

theorem pure (value : α) : Performs (pure value) before (.ok value) [] before :=
  of_steady fun _ => rfl

theorem throw (failure : Failure) :
    Performs (throw failure : Action α) before (.error failure) [] before :=
  of_steady fun _ => rfl

theorem note (level : Level) (source : Source) (text : String) :
    Performs (note level source text) before (.ok ⟨⟩) [] before :=
  fun _ => ⟨[.noted level source text], rfl, rfl⟩

theorem note_bind {level : Level} {source : Source} {text : String}
    {outcome : Except Failure β} {next : PUnit → Action β}
    (rest : Performs (next ⟨⟩) before outcome moves after) :
    Performs (Session.note level source text >>= next) before outcome moves after :=
  (note level source text).quiet_bind rest

/-- What is read from the session at the start of an action, whatever its journal. -/
theorem get_bind {outcome : Except Failure β} {next : Session → Action β}
    (rest : ∀ journal, Performs (next { before with journal }) before outcome moves after) :
    Performs (get >>= next) before outcome moves after := by
  intro journal
  obtain ⟨new, isNew, run⟩ := rest journal journal
  exact ⟨new, isNew, run⟩

theorem require_bind {outcome : Except Failure β} {given : Except Fault α}
    (isValue : given = .ok value) (rest : Performs (next value) before outcome moves after) :
    Performs (Session.require given >>= next) before outcome moves after := by
  subst isValue
  exact (pure value).quiet_bind rest

/-- The time that is told at the start of an action. -/
theorem unixTime_bind {now : Int} {outcome : Except Failure β} {next : Int → Action β}
    (telling : before.clock.unix = .ok now)
    (rest : Performs (next now) before outcome moves after) :
    Performs (Session.unixTime >>= next) before outcome moves after :=
  quiet_bind (get_bind fun _ => telling ▸ pure now) rest

/-! ## The chain -/

section Ledgers

variable {ledger ledger' : Ledger} {contract function : String} {args : List Arg}

theorem read {result : Arg} (on : before.chain = .ledger ledger)
    (reads : ledger.read contract function args = .ok result) :
    Performs (Chain.read contract function args) before (.ok result) [] before := by
  refine get_bind fun journal => ?_
  simp only [on, reads]
  exact pure result

theorem setChain (chain : Chain) :
    Performs (Chain.setChain chain) before (.ok ⟨⟩) [] { before with chain } :=
  of_steady fun _ => rfl

theorem balanceOf {address : String} (on : before.chain = .ledger ledger) :
    Performs (Chain.balanceOf address) before (.ok (ledger.balanceOf address)) [] before := by
  refine get_bind fun journal => ?_
  simp only [on]
  exact pure _

/-- A transaction that a ledger confirms. -/
theorem transact {amount : Int} {gasLimit : Option Int} {receipt : Receipt}
    (on : before.chain = .ledger ledger)
    (called : ledger.transact before.clock.unix contract function args amount =
      (.ok receipt, ledger')) :
    Performs (Chain.transact contract function args amount gasLimit) before (.ok receipt)
      [.call (Chain.recordOf ledger contract function args amount) (some receipt)]
      { before with chain := .ledger ledger' } := by
  refine of_trace fun journal => ?_
  obtain ⟨outcome, left, run⟩ := Runs.exists_run
    (Chain.transact contract function args amount gasLimit) { before with journal }
  obtain ⟨rfl, rfl⟩ := Chain.transact_called run on called
  exact run

end Ledgers

/-! ## Requests -/

/-- A request that a simulated service answers at once. -/
theorem exchange {request : Http.Request} {path : String} {service : Service}
    {response : Http.Response} {peers peers' : Peers}
    (hasPath : Http.Location.path request.url = .ok path)
    (taken : before.peers.take request.method path = (⟨[], .serve service⟩, peers))
    (served : peers.serve before.chain.keys service request = .ok (response, peers')) :
    Performs (Session.exchange request) before (.ok response)
      [.exchange request path (some response)] { before with peers := peers' } := by
  refine of_trace fun journal => ?_
  have taking : Runs (takeAnswer request.method path)
      { before with journal := journal ++ [.requested request path] } (.ok (.serve service))
      { before with peers, journal := journal ++ [.requested request path] } :=
    runs_takeAnswer taken
  have responding : Runs (respond request (.serve service))
      { before with peers, journal := journal ++ [.requested request path] } (.ok response)
      { before with peers := peers', journal := journal ++ [.requested request path] } :=
    runs_respond served
  have answering : Runs (do record (.answered request response); return response)
      { before with peers := peers', journal := journal ++ [.requested request path] }
      (.ok response) { before with
        peers := peers'
        journal := journal ++ [.requested request path] ++ [.answered request response] } := rfl
  rw [List.append_assoc] at answering
  unfold Session.exchange
  rw [hasPath]
  exact taking.bind (responding.bind answering)

/-- A request that gets a response at once. -/
theorem exchange_responded {request : Http.Request} {path : String} {response : Http.Response}
    {peers : Peers} (hasPath : Http.Location.path request.url = .ok path)
    (taken : before.peers.take request.method path = (Peers.answerOf response, peers)) :
    Performs (Session.exchange request) before (.ok response)
      [.exchange request path (some response)] { before with peers } := by
  refine of_trace fun journal => ?_
  have taking : Runs (takeAnswer request.method path)
      { before with journal := journal ++ [.requested request path] } (.ok (.respond response))
      { before with peers, journal := journal ++ [.requested request path] } :=
    runs_takeAnswer taken
  have answering : Runs (do record (.answered request response); return response)
      { before with peers, journal := journal ++ [.requested request path] }
      (.ok response) { before with
        peers
        journal := journal ++ [.requested request path] ++ [.answered request response] } := rfl
  rw [List.append_assoc] at answering
  unfold Session.exchange
  rw [hasPath]
  exact taking.bind answering

end Performs

end Provisioning
