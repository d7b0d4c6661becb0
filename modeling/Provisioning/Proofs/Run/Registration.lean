import Provisioning.Proofs.Run.Account

/-!
# Paying for an account

An account is paid for when it must be, and once. Where a registration is due, the checks
that were made before it rule out every reason for which the ledger could refuse it: unless
a failure is prepared, its one transaction assigns the next account against the price, even
if no event tells of it (`Account.register_due`). From then on the account is known, in
whatever letter case the owner is written (`Account.ensure_known_all`). Main statement:
`Account.ensure_pays_once`.
-/

namespace Provisioning

open Contract Session

namespace Account

variable {before after : Session} {ledger : Ledger} {owner recovery : String}
variable {outcome : Except Failure Int}

/-! ## One registration -/

/-- The transaction that registers an account, for the price. -/
def payment (ledger : Ledger) (recovery : String) : Transaction :=
  Chain.recordOf ledger "IdGateway" "register" [.str recovery] ledger.price

/-- What a registration comes to that is due. One transaction is sent in any case. -/
inductive Registers (ledger : Ledger) (owner recovery : String) (before after : Session) :
    Except Failure Int → Prop where
  | failed {reason : String}
      (prepared : Ledger.lookup ("IdGateway", "register") ledger.failures = some reason)
      (sent : transactionsOf after.journal =
        transactionsOf before.journal ++ [payment ledger recovery])
      (chain : after.chain = .ledger (ledger.failing (payment ledger recovery))) :
      Registers ledger owner recovery before after
        (.error (Ledger.reverted "IdGateway" "register" reason (payment ledger recovery).hash))
  | assigned
      (unprepared : Ledger.lookup ("IdGateway", "register") ledger.failures = none)
      (emits : ledger.emitsEvents = true)
      (sent : transactionsOf after.journal =
        transactionsOf before.journal ++ [payment ledger recovery])
      (chain : after.chain = .ledger (ledger.registering (payment ledger recovery))) :
      Registers ledger owner recovery before after (.ok ledger.nextAccount)
  | unreported
      (unprepared : Ledger.lookup ("IdGateway", "register") ledger.failures = none)
      (silent : ledger.emitsEvents = false)
      (sent : transactionsOf after.journal =
        transactionsOf before.journal ++ [payment ledger recovery])
      (chain : after.chain = .ledger (ledger.registering (payment ledger recovery))) :
      Registers ledger owner recovery before after
        (.error (.missingRegistrationEvent (payment ledger recovery).hash owner))

/-- The ledger takes a registration that is due, unless a failure is prepared for it. -/
theorem Due.transact_ok (due : Due ledger owner) (now : Except Fault Int) (recovery : String)
    (unprepared : Ledger.lookup ("IdGateway", "register") ledger.failures = none) :
    ∃ receipt, receipt.hash = (payment ledger recovery).hash ∧
      receipt.logs =
        .events (if ledger.emitsEvents then [ledger.registration (.str recovery)] else []) ∧
      ledger.transact now "IdGateway" "register" [.str recovery] ledger.price =
        (.ok receipt, ledger.registering (payment ledger recovery)) := by
  have unregistered : ledger.accountOf ledger.address = 0 :=
    (Ledger.accountOf_eq_ownAccount due.own).symm.trans due.unregistered
  have funded : ledger.price ≤ ledger.balanceOf ledger.address := by
    have enough := due.enough
    rw [Ledger.balanceOf, due.own] at enough
    exact enough
  exact Ledger.transact_register_ok now (.str recovery) unprepared unregistered funded

/-- A registration that is due fails only as it was prepared to. -/
theorem register_due (run : Runs (register owner recovery ledger.price) before outcome after)
    (on : before.chain = .ledger ledger) (due : Due ledger owner) :
    Registers ledger owner recovery before after outcome := by
  obtain ⟨noted, talk, run⟩ := register_sends run
  have on := talk.chain.trans on
  have sends {result : Except Failure Receipt} {ledger' : Ledger} :
      transactionsOf (noted.sending ledger' (Chain.happeningsOf ledger "IdGateway" "register"
        [.str recovery] ledger.price result)).journal =
      transactionsOf before.journal ++ [payment ledger recovery] := by
    rw [Session.sending, transactionsOf_append, transactionsOf_happeningsOf, talk.transactionsOf]
    rfl
  cases preparation : Ledger.lookup ("IdGateway", "register") ledger.failures with
  | some reason =>
    have called :=
      ledger.transact_prepared noted.clock.unix [.str recovery] ledger.price preparation
    rcases run.bind_inv with ⟨receipt, middle, sending, -⟩ | ⟨failure, sending, rfl⟩
    · cases (Chain.transact_called sending on called).1
    · obtain ⟨isFailure, rfl⟩ := Chain.transact_called sending on called
      cases isFailure
      exact .failed preparation sends rfl
  | none =>
    obtain ⟨receipt, isHash, logs, called⟩ := due.transact_ok noted.clock.unix recovery preparation
    rcases run.bind_inv with ⟨received, middle, sending, counting⟩ | ⟨failure, sending, -⟩
    · obtain ⟨isReceipt, rfl⟩ := Chain.transact_called sending on called
      cases isReceipt
      obtain ⟨quiet, isOutcome⟩ := numberIn_inv counting logs
      have sent := quiet.transactionsOf.trans sends
      cases emits : ledger.emitsEvents with
      | true =>
        rw [emits, if_pos rfl] at isOutcome
        subst isOutcome
        exact .assigned preparation emits sent quiet.chain
      | false =>
        rw [emits, if_neg Bool.false_ne_true, isHash] at isOutcome
        subst isOutcome
        exact .unreported preparation emits sent quiet.chain
    · cases (Chain.transact_called sending on called).1

/-! ## Calls that follow -/

/-- An owner with an account is told of it, and nothing is paid. -/
theorem ensure_known {recovery : Option String} (registered : ledger.accountOf owner ≠ 0)
    (run : Runs (ensure owner recovery) before outcome after) (on : before.chain = .ledger ledger) :
    outcome = .ok (ledger.accountOf owner) ∧ Extends noRequest before after := by
  cases ensure_course run on with
  | known _ talk => exact ⟨rfl, talk⟩
  | foreign unregistered | penniless unregistered | short unregistered =>
    exact absurd unregistered registered
  | due due => exact absurd due.unregistered registered

/-- So it goes however often the account is asked for, and however the owner is written. -/
theorem ensure_known_all (registered : ledger.accountOf owner ≠ 0)
    {calls : List (String × Option String)} {numbers : Except Failure (List Int)}
    (same : ∀ call ∈ calls, Text.lower call.1 = Text.lower owner)
    (run : Runs (calls.mapM fun call => ensure call.1 call.2) before numbers after)
    (on : before.chain = .ledger ledger) :
    numbers = .ok (calls.map fun _ => ledger.accountOf owner) ∧ Extends noRequest before after := by
  induction calls generalizing before after numbers with
  | nil =>
    rw [List.mapM_nil] at run
    obtain ⟨rfl, rfl⟩ := run.pure_inv
    exact ⟨rfl, .refl _ _⟩
  | cons call calls ih =>
    have account : ledger.accountOf call.1 = ledger.accountOf owner := by
      rw [Ledger.accountOf, same call List.mem_cons_self, Ledger.accountOf]
    have known : ledger.accountOf call.1 ≠ 0 := by
      rw [account]
      exact registered
    have others : ∀ call ∈ calls, Text.lower call.1 = Text.lower owner :=
      fun call member => same call (List.mem_cons_of_mem _ member)
    rw [List.mapM_cons] at run
    rcases run.bind_inv with ⟨number, middle, looks, rest⟩ | ⟨failure, looks, -⟩
    · obtain ⟨isNumber, talk⟩ := ensure_known known looks on
      rw [account] at isNumber
      cases isNumber
      have on := talk.chain.trans on
      rcases rest.bind_inv with ⟨numbers, last, more, done⟩ | ⟨failure, more, -⟩
      · obtain ⟨isNumbers, quiet⟩ := ih others more on
        cases isNumbers
        obtain ⟨rfl, rfl⟩ := done.pure_inv
        exact ⟨rfl, talk.trans quiet⟩
      · cases (ih others more on).1
    · cases (ensure_known known looks on).1

/-! ## The whole course -/

/-- An account is paid for when it must be, and once. A known account, an owner whom the
ledger does not send for, and a balance that is empty or below the price take no transaction
and leave the ledger alone. A registration that is due sends one transaction, for the price;
unless a failure is prepared, it assigns the next account and takes the price from the
balance, and every call that follows returns that account and pays nothing. -/
theorem ensure_pays_once {recovery : Option String}
    (run : Runs (ensure owner recovery) before outcome after)
    (on : before.chain = .ledger ledger) (positive : 1 ≤ ledger.nextAccount) :
    Course ledger owner
        (Registers ledger owner (recoverer owner recovery) before after)
        before after outcome ∧
      (¬Due ledger owner →
        after.chain = before.chain ∧ transactionsOf after.journal = transactionsOf before.journal) ∧
      (Due ledger owner →
        Ledger.lookup ("IdGateway", "register") ledger.failures = none →
        ∃ ledger', after.chain = .ledger ledger' ∧
          ledger'.accountOf owner = ledger.nextAccount ∧
          ledger'.balanceOf owner = ledger.balanceOf owner - ledger.price ∧
          ∀ {calls : List (String × Option String)} {again later : Session}
            {numbers : Except Failure (List Int)},
            (∀ call ∈ calls, Text.lower call.1 = Text.lower owner) →
            again.chain = after.chain →
            Runs (calls.mapM fun call => ensure call.1 call.2) again numbers later →
            numbers = .ok (calls.map fun _ => ledger.nextAccount) ∧
              later.chain = again.chain ∧
              transactionsOf later.journal = transactionsOf again.journal) := by
  have course := (ensure_course run on).mono fun due registering => register_due registering on due
  refine ⟨course, ?_, ?_⟩
  · intro undue
    cases course with
    | known registered talk => exact ⟨talk.chain, talk.transactionsOf⟩
    | foreign unregistered other same | penniless unregistered own empty same
    | short unregistered own held less same =>
      subst same
      exact ⟨rfl, rfl⟩
    | due due => exact absurd due undue
  · intro due unprepared
    have chain : after.chain = .ledger
        (ledger.registering (payment ledger (recoverer owner recovery))) := by
      cases course with
      | known registered => exact absurd due.unregistered registered
      | foreign unregistered other => exact absurd due.own other
      | penniless unregistered own empty => exact absurd empty due.held
      | short unregistered own held less => exact absurd due.enough (Int.not_le.mpr less)
      | due due ending =>
        cases ending with
        | failed prepared =>
          rw [unprepared] at prepared
          cases prepared
        | assigned _ _ _ chain | unreported _ _ _ chain => exact chain
    have account := Ledger.accountOf_registering
      (payment ledger (recoverer owner recovery)) due.own
    refine ⟨_, chain, account, Ledger.balanceOf_registering _ due.own, ?_⟩
    intro calls again later numbers same onward further
    have registered : (ledger.registering (payment ledger
        (recoverer owner recovery))).accountOf owner ≠ 0 := by
      rw [account]
      omega
    obtain ⟨isNumbers, talk⟩ := ensure_known_all registered same further (onward.trans chain)
    rw [account] at isNumbers
    exact ⟨isNumbers, talk.chain, talk.transactionsOf⟩

/-! ## A registration without an event -/

/-- A ledger that reports no events and holds the price of one account, to the last unit. -/
def silentLedger : Ledger :=
  { Ledger.create "0xAb" 5 5 7 with emitsEvents := false }

/-- A session of an owner who has no account yet. -/
def newcomer : Session where
  clock := Clock.ofStart (Binary64.ofInt 0)
  seeds := []
  generated := 0
  chain := .ledger silentLedger
  peers := Peers.silent
  journal := []
  kept := none

/-- The failure of the first call loses the number, not the account: the call is repeated
with another spelling of the owner, and finds the account paid for. -/
theorem newcomer_pays_once :
    ∃ paid again,
      Runs (ensure "0xaB" none) newcomer
        (.error (.missingRegistrationEvent (Ledger.hashOf 1) "0xaB")) paid ∧
      transactionsOf paid.journal =
        [⟨"IdGateway", "register", [.str "0xaB"], 5, Ledger.hashOf 1⟩] ∧
      Runs ([("0xAB", none), ("0xab", some "0xcd")].mapM fun call => ensure call.1 call.2) paid
        (.ok [7, 7]) again ∧
      transactionsOf again.journal = transactionsOf paid.journal := by
  obtain ⟨outcome, paid, run⟩ := Runs.exists_run (ensure "0xaB" none) newcomer
  obtain ⟨course, -, settles⟩ := ensure_pays_once run rfl (by decide)
  have due : Due silentLedger "0xaB" := ⟨rfl, by decide, by decide, by decide⟩
  obtain ⟨ledger, -, -, -, further⟩ := settles due rfl
  obtain ⟨numbers, again, more⟩ := Runs.exists_run
    ([("0xAB", none), ("0xab", some "0xcd")].mapM fun call => ensure call.1 call.2) paid
  obtain ⟨rfl, -, unpaid⟩ := further (by decide) rfl more
  cases course with
  | known registered => exact absurd due.unregistered registered
  | foreign unregistered other => exact absurd due.own other
  | penniless unregistered own empty => exact absurd empty due.held
  | short unregistered own held less => exact absurd due.enough (Int.not_le.mpr less)
  | due _ ending =>
    cases ending with
    | failed prepared => cases prepared
    | assigned _ emits => cases emits
    | unreported _ _ sent => exact ⟨paid, again, run, sent, more, unpaid⟩

end Account

end Provisioning
