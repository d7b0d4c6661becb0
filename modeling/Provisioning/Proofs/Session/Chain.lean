import Provisioning.Contract.Call
import Provisioning.Proofs.Contract.Ledger
import Provisioning.Proofs.Session.Talk

/-!
# The chain of a session

What reading a ledger and sending it a transaction come to in a session
(`Chain.read_inv`, `Chain.transact_inv`). A transaction is always written down as sent,
and as confirmed exactly if its receipt is returned.
-/

namespace Provisioning

/-- The session in which a transaction has just been sent. -/
def Session.sending (session : Session) (ledger : Contract.Ledger)
    (happenings : List Happening) : Session :=
  { session with chain := .ledger ledger, journal := session.journal ++ happenings }

namespace Chain

open Contract Session

variable {before after : Session} {ledger : Ledger} {contract function : String}
variable {args : List Arg} {value : Int} {gasLimit : Option Int}

theorem balanceOf_inv {address : String} {outcome : Except Failure Int}
    (run : Runs (Chain.balanceOf address) before outcome after)
    (on : before.chain = .ledger ledger) :
    outcome = .ok (ledger.balanceOf address) ∧ after = before := by
  have run := Runs.get_bind run
  simp only [on] at run
  exact run.pure_inv

/-- Reading changes nothing. -/
theorem read_inv {outcome : Except Failure Arg}
    (run : Runs (Chain.read contract function args) before outcome after)
    (on : before.chain = .ledger ledger) :
    outcome = (ledger.read contract function args).mapError .fault ∧ after = before := by
  have run := Runs.get_bind run
  simp only [on] at run
  exact run.require_inv

theorem decodeEvents_inv {name : String} {receipt : Receipt} {events : List Event}
    {outcome : Except Failure (List (List (String × Arg)))}
    (run : Runs (Chain.decodeEvents contract name receipt) before outcome after)
    (logs : receipt.logs = .events events) :
    outcome = .ok ((events.filter fun event =>
        event.contract == contract && event.name == name).map (·.args)) ∧ after = before := by
  rw [Chain.decodeEvents] at run
  simp only [logs] at run
  exact run.pure_inv

/-- The record that a call leaves on a ledger. -/
def recordOf (ledger : Ledger) (contract function : String) (args : List Arg) (value : Int) :
    Transaction :=
  ⟨contract, function, args, value, Ledger.hashOf (ledger.records.length + 1)⟩

theorem send_inv {outcome result : Except Failure Receipt} {ledger' : Ledger}
    (run : Runs (Chain.send contract function args value gasLimit) before outcome after)
    (on : before.chain = .ledger ledger)
    (called : ledger.transact before.clock.unix contract function args value = (result, ledger')) :
    outcome = result ∧
      after = before.sending ledger' [.sent (recordOf ledger contract function args value)] := by
  have run := Runs.get_bind run
  simp only [on] at run
  have run := Runs.get_bind run
  rw [called] at run
  have recorded : Chain.recordedSince ledger ledger' =
      [recordOf ledger contract function args value] := by
    have records := Ledger.records_transact ledger before.clock.unix contract function args value
    rw [called] at records
    rw [Chain.recordedSince, records, List.drop_left]
    rfl
  simp only [recorded] at run
  have run : Runs (Chain.settle result)
      (before.sending ledger' [.sent (recordOf ledger contract function args value)])
      outcome after := Runs.modify_bind run
  cases result with
  | ok receipt => exact run.pure_inv
  | error failure => exact run.throw_inv

/-- The happenings of a call: it is sent, and it is confirmed if there is a receipt. -/
def happeningsOf (ledger : Ledger) (contract function : String) (args : List Arg) (value : Int) :
    Except Failure Receipt → List Happening
  | .ok receipt =>
    [.sent (recordOf ledger contract function args value), .confirmed contract function receipt]
  | .error _ => [.sent (recordOf ledger contract function args value)]

/-- A transaction ends in what the ledger makes of it. -/
theorem transact_called {outcome result : Except Failure Receipt} {ledger' : Ledger}
    (run : Runs (Chain.transact contract function args value gasLimit) before outcome after)
    (on : before.chain = .ledger ledger)
    (called : ledger.transact before.clock.unix contract function args value = (result, ledger')) :
    outcome = result ∧
      after = before.sending ledger' (happeningsOf ledger contract function args value result) := by
  rcases run.bind_inv with ⟨receipt, middle, sent, rest⟩ | ⟨failure, sent, rfl⟩
  · obtain ⟨rfl, rfl⟩ := send_inv sent on called
    obtain ⟨rfl, rfl⟩ := (Runs.record_bind rest).pure_inv
    refine ⟨rfl, ?_⟩
    rw [Session.sending, happeningsOf, Session.sending, List.append_assoc]
    rfl
  · obtain ⟨rfl, rfl⟩ := send_inv sent on called
    exact ⟨rfl, rfl⟩

/-- A transaction fails, or is confirmed. -/
theorem transact_inv {outcome : Except Failure Receipt}
    (run : Runs (Chain.transact contract function args value gasLimit) before outcome after)
    (on : before.chain = .ledger ledger) :
    ∃ ledger', Ledger.Transacted ledger contract function args outcome ledger' ∧
      after = before.sending ledger'
        (happeningsOf ledger contract function args value outcome) := by
  generalize called :
    ledger.transact before.clock.unix contract function args value = result
  obtain ⟨result, ledger'⟩ := result
  obtain ⟨rfl, rfl⟩ := transact_called run on called
  exact ⟨ledger', Ledger.transact_inv called, rfl⟩

end Chain

/-! ## Transactions that were sent -/

/-- The transactions that a journal has sent, in order. -/
def transactionsOf (journal : List Happening) : List Contract.Transaction :=
  journal.filterMap fun happening =>
    match happening with
    | .sent transaction => some transaction
    | _ => none

theorem transactionsOf_append (early late : List Happening) :
    transactionsOf (early ++ late) = transactionsOf early ++ transactionsOf late :=
  List.filterMap_append

/-- Talk sends no transaction. -/
theorem Extends.transactionsOf {fits : Http.Request → Prop} {before after : Session}
    (talk : Extends fits before after) :
    transactionsOf after.journal = transactionsOf before.journal := by
  obtain ⟨new, journal, all⟩ := talk.journal
  have none : Provisioning.transactionsOf new = [] := by
    refine List.filterMap_eq_nil_iff.mpr ?_
    intro happening member
    have isTalk := all happening member
    cases happening with
    | sent => exact isTalk.elim
    | noted | slept | confirmed | requested | answered | called | printed => rfl
  rw [journal, transactionsOf_append, none, List.append_nil]

theorem transactionsOf_happeningsOf (ledger : Contract.Ledger) (contract function : String)
    (args : List Arg) (value : Int) (result : Except Failure Contract.Receipt) :
    transactionsOf (Chain.happeningsOf ledger contract function args value result) =
      [Chain.recordOf ledger contract function args value] := by
  cases result <;> rfl

/-! ## Talk around a transaction -/

/-- Talk without requests, and then a transaction that fails and leaves a ledger. -/
def Reverts (ledger : Contract.Ledger) (before after : Session) : Prop :=
  ∃ ready transaction, Extends noRequest before ready ∧
    after = ready.sending ledger [.sent transaction]

/-- Talk without requests, a transaction that is confirmed and leaves a ledger, and then
talk that fits. -/
def Confirms (fits : Http.Request → Prop) (contract function : String)
    (ledger : Contract.Ledger) (before after : Session) : Prop :=
  ∃ ready transaction receipt, Extends noRequest before ready ∧
    Extends fits (ready.sending ledger [.sent transaction, .confirmed contract function receipt])
      after

section Around

variable {fits : Http.Request → Prop} {contract function : String} {ledger : Contract.Ledger}
variable {before middle after : Session}

theorem Reverts.chain (reverts : Reverts ledger before after) : after.chain = .ledger ledger := by
  obtain ⟨ready, transaction, -, rfl⟩ := reverts
  rfl

theorem Reverts.kept (reverts : Reverts ledger before after) : after.kept = before.kept := by
  obtain ⟨ready, transaction, talk, rfl⟩ := reverts
  exact talk.kept

theorem Reverts.seeds (reverts : Reverts ledger before after) : after.seeds ⊆ before.seeds := by
  obtain ⟨ready, transaction, talk, rfl⟩ := reverts
  exact talk.seeds

theorem Reverts.after_talk (talk : Extends noRequest before middle)
    (reverts : Reverts ledger middle after) : Reverts ledger before after := by
  obtain ⟨ready, transaction, more, rfl⟩ := reverts
  exact ⟨ready, transaction, talk.trans more, rfl⟩

theorem Confirms.chain (confirms : Confirms fits contract function ledger before after) :
    after.chain = .ledger ledger := by
  obtain ⟨ready, transaction, receipt, -, rest⟩ := confirms
  exact rest.chain

theorem Confirms.kept (confirms : Confirms fits contract function ledger before after) :
    after.kept = before.kept := by
  obtain ⟨ready, transaction, receipt, talk, rest⟩ := confirms
  exact rest.kept.trans talk.kept

theorem Confirms.seeds (confirms : Confirms fits contract function ledger before after) :
    after.seeds ⊆ before.seeds := by
  obtain ⟨ready, transaction, receipt, talk, rest⟩ := confirms
  exact List.Subset.trans rest.seeds talk.seeds

theorem Confirms.after_talk (talk : Extends noRequest before middle)
    (confirms : Confirms fits contract function ledger middle after) :
    Confirms fits contract function ledger before after := by
  obtain ⟨ready, transaction, receipt, more, rest⟩ := confirms
  exact ⟨ready, transaction, receipt, talk.trans more, rest⟩

end Around

/-! ## Counting confirmations -/

def Happening.isConfirmation (contract function : String) : Happening → Bool
  | .confirmed contract' function' _ => contract' == contract && function' == function
  | _ => false

/-- How many transactions for a function were confirmed. -/
def confirmations (contract function : String) (journal : List Happening) : Nat :=
  journal.countP (Happening.isConfirmation contract function)

theorem exists_confirmed {contract function : String} {journal : List Happening}
    (counted : 0 < confirmations contract function journal) :
    ∃ receipt, .confirmed contract function receipt ∈ journal := by
  obtain ⟨happening, member, isConfirmation⟩ := List.countP_pos_iff.mp counted
  cases happening with
  | confirmed contract' function' receipt =>
    simp only [Happening.isConfirmation, Bool.and_eq_true, beq_iff_eq] at isConfirmation
    obtain ⟨rfl, rfl⟩ := isConfirmation
    exact ⟨receipt, member⟩
  | noted | slept | sent | requested | answered | called | printed => cases isConfirmation

section Counting

variable {fits : Http.Request → Prop} {contract function : String} {ledger : Contract.Ledger}
variable {before after : Session}

theorem Extends.confirmations (talk : Extends fits before after) (contract function : String) :
    confirmations contract function after.journal =
      confirmations contract function before.journal := by
  obtain ⟨new, journal, all⟩ := talk.journal
  have none : new.countP (Happening.isConfirmation contract function) = 0 := by
    refine List.countP_eq_zero.mpr ?_
    intro happening member
    have isTalk := all happening member
    cases happening with
    | confirmed => exact isTalk.elim
    | noted | slept | sent | requested | answered | called | printed =>
      simp [Happening.isConfirmation]
  rw [journal, Provisioning.confirmations, List.countP_append, none]
  rfl

theorem Reverts.confirmations (reverts : Reverts ledger before after)
    (contract function : String) :
    confirmations contract function after.journal =
      confirmations contract function before.journal := by
  obtain ⟨ready, transaction, talk, rfl⟩ := reverts
  rw [← talk.confirmations contract function]
  simp [Session.sending, Provisioning.confirmations, Happening.isConfirmation]

theorem Confirms.confirmations (confirms : Confirms fits contract function ledger before after)
    (contract' function' : String) :
    confirmations contract' function' after.journal =
      confirmations contract' function' before.journal +
        if contract = contract' ∧ function = function' then 1 else 0 := by
  obtain ⟨ready, transaction, receipt, talk, rest⟩ := confirms
  rw [rest.confirmations, ← talk.confirmations contract' function']
  simp [Session.sending, Provisioning.confirmations, Happening.isConfirmation]

end Counting

end Provisioning
