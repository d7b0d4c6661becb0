import Provisioning.Proofs.Session.Chain
import Provisioning.Proofs.Session.Exchange

/-!
# Sessions that are left in peace

Work with a ledger asks nobody and takes no time. `Calms action` says so of an action that
begins on a ledger; it is kept by composition (`Calms.bind`). Where somebody is asked, it
matters that there is an answer: `Peers.Answers count` says that the next requests, whatever
they are, are answered at once, and one request uses up one of the answers
(`Session.exchange_answered`).
-/

namespace Provisioning

open Contract Session

/-! ## Work with a ledger -/

/-- No response came. -/
def Happening.IsUnanswered : Happening → Prop
  | .answered .. => False
  | _ => True

/-- Nobody is asked and no time passes in between, and a ledger is left. -/
structure Session.Calm (before after : Session) : Prop where
  chain : ∃ ledger, after.chain = .ledger ledger
  clock : after.clock = before.clock
  peers : after.peers = before.peers
  journal : Grows Happening.IsUnanswered before after

namespace Session.Calm

variable {before middle after : Session} {ledger : Ledger}

theorem refl (on : before.chain = .ledger ledger) : Calm before before :=
  ⟨⟨ledger, on⟩, rfl, rfl, .refl _ before⟩

/-- Talk without requests is calm if it takes no time. -/
theorem of_talk (talk : Extends noRequest before after) (on : before.chain = .ledger ledger)
    (clock : after.clock = before.clock) : Calm before after := by
  refine ⟨⟨ledger, talk.chain.trans on⟩, clock, talk.peers fun _ => id, talk.journal.mono ?_⟩
  intro happening isTalk
  cases happening with
  | answered => exact isTalk
  | _ => trivial

theorem wrote (on : before.chain = .ledger ledger) {happenings : List Happening}
    (unanswered : ∀ happening ∈ happenings, happening.IsUnanswered) :
    Calm before { before with journal := before.journal ++ happenings } :=
  ⟨⟨ledger, on⟩, rfl, rfl, happenings, rfl, unanswered⟩

theorem noted (on : before.chain = .ledger ledger) (level : Provisioning.Level) (source : Source)
    (text : String) :
    Calm before { before with journal := before.journal ++ [.noted level source text] } :=
  wrote on (by simp [Happening.IsUnanswered])

theorem called (before : Session) (ledger ledger' : Ledger) (contract function : String)
    (args : List Arg) (value : Int) (result : Except Failure Receipt) :
    Calm before (before.sending ledger'
      (Chain.happeningsOf ledger contract function args value result)) :=
  ⟨⟨ledger', rfl⟩, rfl, rfl, _, rfl, by
    cases result <;> simp [Chain.happeningsOf, Happening.IsUnanswered]⟩

theorem trans (first : Calm before middle) (rest : Calm middle after) : Calm before after :=
  ⟨rest.chain, rest.clock.trans first.clock, rest.peers.trans first.peers,
    first.journal.trans rest.journal⟩

end Session.Calm

/-- Every run of the action that begins on a ledger is calm. -/
def Calms {α : Type} (action : Action α) : Prop :=
  ∀ ⦃before outcome after ledger⦄, Runs action before outcome after →
    before.chain = .ledger ledger → Calm before after

namespace Calms

variable {α β : Type}

theorem pure (value : α) : Calms (pure value) := by
  intro before outcome after ledger run on
  obtain ⟨-, rfl⟩ := run.pure_inv
  exact .refl on

theorem throw (failure : Failure) : Calms (throw failure : Action α) := by
  intro before outcome after ledger run on
  obtain ⟨-, rfl⟩ := run.throw_inv
  exact .refl on

theorem get : Calms (MonadState.get : Action Session) := by
  intro before outcome after ledger run on
  obtain ⟨-, rfl⟩ := Runs.get_inv run
  exact .refl on

theorem require (value : Except Fault α) : Calms (require value) := by
  intro before outcome after ledger run on
  obtain ⟨-, rfl⟩ := run.require_inv
  exact .refl on

theorem bind {action : Action α} {next : α → Action β} (first : Calms action)
    (rest : ∀ value, Calms (next value)) : Calms (action >>= next) := by
  intro before outcome after ledger run on
  rcases run.bind_inv with ⟨value, middle, firstRun, restRun⟩ | ⟨failure, firstRun, -⟩
  · have early := first firstRun on
    obtain ⟨ledger', on'⟩ := early.chain
    exact early.trans (rest value restRun on')
  · exact first firstRun on

theorem ite {condition : Prop} [Decidable condition] {action other : Action α}
    (yes : Calms action) (no : Calms other) :
    Calms (if condition then action else other) := by
  split
  · exact yes
  · exact no

theorem note (level : Level) (source : Source) (text : String) :
    Calms (note level source text) := by
  intro before outcome after ledger run on
  obtain ⟨-, rfl⟩ := run.modify_inv
  exact .noted on level source text

theorem read (contract function : String) (args : List Arg) :
    Calms (Chain.read contract function args) := by
  intro before outcome after ledger run on
  obtain ⟨-, rfl⟩ := Chain.read_inv run on
  exact .refl on

theorem balanceOf (address : String) : Calms (Chain.balanceOf address) := by
  intro before outcome after ledger run on
  obtain ⟨-, rfl⟩ := Chain.balanceOf_inv run on
  exact .refl on

theorem transact (contract function : String) (args : List Arg) (value : Int)
    (gasLimit : Option Int) : Calms (Chain.transact contract function args value gasLimit) := by
  intro before outcome after ledger run on
  obtain ⟨ledger', -, rfl⟩ := Chain.transact_inv run on
  exact .called before ledger ledger' contract function args value outcome

theorem decodeEvents (contract name : String) (receipt : Receipt) :
    Calms (Chain.decodeEvents contract name receipt) := by
  unfold Chain.decodeEvents
  split
  · exact .pure _
  · exact .bind (.require _) fun _ => .require _

end Calms

/-! ## Answers at once -/

/-- So many requests are answered at once, whatever they are. -/
def Peers.Answers : Nat → Peers → Prop
  | 0, _ => True
  | count + 1, peers => ∀ method path, ∃ response rest,
    peers.take method path = (answerOf response, rest) ∧ rest.Answers count

/-- Replies that are queued answer as many requests. -/
theorem Peers.answers_of_queue {peers : Peers} (responses : List Http.Response)
    (queued : peers.queue = responses.map answerOf) : peers.Answers responses.length := by
  induction responses generalizing peers with
  | nil => trivial
  | cons response rest ih =>
    intro method path
    refine ⟨response, { peers with queue := rest.map answerOf }, ?_, ih rfl⟩
    rw [take, queued]
    rfl

theorem Session.takeAnswer_at_once {method path : String} {response : Http.Response}
    {rest : Peers} {before after : Session} {outcome : Except Failure Reply}
    (run : Runs (takeAnswer method path) before outcome after)
    (taken : before.peers.take method path = (Peers.answerOf response, rest)) :
    outcome = .ok (.respond response) ∧ after = { before with peers := rest } := by
  unfold takeAnswer at run
  have run := Runs.get_bind run
  rw [taken] at run
  exact (Runs.pure_bind (Runs.modify_bind run)).pure_inv

/-- A request is answered, and no time passes. -/
theorem Session.exchange_answered {request : Http.Request} {count : Nat} {before after : Session}
    {outcome : Except Failure Http.Response}
    (run : Runs (exchange request) before outcome after)
    (hasPath : ∃ path, Http.Location.path request.url = .ok path)
    (answers : before.peers.Answers (count + 1)) :
    ∃ path response, outcome = .ok response ∧ after.clock = before.clock ∧
      after.peers.Answers count ∧ after.journal = before.journal ++
        [.requested request path, .answered request response] := by
  obtain ⟨path, isPath⟩ := hasPath
  obtain ⟨response, rest, taken, others⟩ := answers request.method path
  rw [exchange, isPath] at run
  have run := Runs.record_bind (Runs.require_ok_bind run)
  rcases run.bind_inv with ⟨reply, middle, taking, run⟩ | ⟨failure, taking, -⟩
  · obtain ⟨isReply, rfl⟩ := takeAnswer_at_once taking taken
    cases isReply
    obtain ⟨rfl, rfl⟩ := (Runs.record_bind (Runs.pure_bind run)).pure_inv
    exact ⟨path, response, rfl, rfl, others, List.append_assoc _ _ _⟩
  · cases (takeAnswer_at_once taking taken).1

end Provisioning
