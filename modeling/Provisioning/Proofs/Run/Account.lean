import Provisioning.Account
import Provisioning.Proofs.Session.Chain

/-!
# Making sure of an account

On a ledger `Account.ensure` finds the account, refuses to register one, or goes on to the
registration (`Account.ensure_course`). If the ledger sends from the owner's address, that
comes to one of four ends (`Account.ensure_inv`): the account is known already; it is
refused before any transaction; the registration fails; or it is confirmed, and then the
number that may still be returned is the one the owner now has.
-/

namespace Provisioning.Account

open Contract Session

variable {before after : Session} {ledger : Ledger} {owner : String}

/-- What making sure of an account comes to on a ledger. -/
inductive Ensured (ledger : Ledger) (owner : String) (before after : Session) :
    Except Failure Int → Prop where
  | known (registered : ledger.accountOf owner ≠ 0) (talk : Extends noRequest before after) :
      Ensured ledger owner before after (.ok (ledger.accountOf owner))
  | refused {failure : Failure} (unregistered : ledger.accountOf owner = 0)
      (talk : Extends noRequest before after) :
      Ensured ledger owner before after (.error failure)
  | reverted {failure : Failure} {ledger' : Ledger}
      (unregistered : ledger.accountOf owner = 0)
      (same : Ledger.SameRegistries ledger ledger') (reverts : Reverts ledger' before after) :
      Ensured ledger owner before after (.error failure)
  | registered {outcome : Except Failure Int} {ledger' : Ledger}
      (unregistered : ledger.accountOf owner = 0) (address : ledger'.address = ledger.address)
      (keys : ledger'.keys = ledger.keys) (account : ledger'.accountOf owner = ledger.nextAccount)
      (confirms : Confirms noRequest "IdGateway" "register" ledger' before after)
      (number : ∀ n, outcome = .ok n → n = ledger.nextAccount) :
      Ensured ledger owner before after outcome

/-- A registration is due: the owner has no account, is who the ledger sends for, and holds
the price of one. -/
structure Due (ledger : Ledger) (owner : String) : Prop where
  unregistered : ledger.accountOf owner = 0
  own : Text.lower owner = Text.lower ledger.address
  held : ledger.balanceOf owner ≠ 0
  enough : ledger.price ≤ ledger.balanceOf owner

/-- The course that making sure of an account takes on a ledger: the account is known, or
the session is left as it was with a refusal, or a registration is due and `ends` says what
it comes to. -/
inductive Course (ledger : Ledger) (owner : String) (ends : Except Failure Int → Prop)
    (before after : Session) : Except Failure Int → Prop where
  | known (registered : ledger.accountOf owner ≠ 0) (talk : Extends noRequest before after) :
      Course ledger owner ends before after (.ok (ledger.accountOf owner))
  | foreign (unregistered : ledger.accountOf owner = 0)
      (other : Text.lower owner ≠ Text.lower ledger.address) (same : after = before) :
      Course ledger owner ends before after
        (.error (.fault (.refusal (.notCustody owner ledger.address))))
  | penniless (unregistered : ledger.accountOf owner = 0)
      (own : Text.lower owner = Text.lower ledger.address)
      (empty : ledger.balanceOf owner = 0) (same : after = before) :
      Course ledger owner ends before after (.error (.noAccountNoFunds owner ledger.price))
  | short (unregistered : ledger.accountOf owner = 0)
      (own : Text.lower owner = Text.lower ledger.address)
      (held : ledger.balanceOf owner ≠ 0) (less : ledger.balanceOf owner < ledger.price)
      (same : after = before) :
      Course ledger owner ends before after
        (.error (.insufficientFunds owner (ledger.balanceOf owner) ledger.price))
  | due {outcome : Except Failure Int} (due : Due ledger owner) (ending : ends outcome) :
      Course ledger owner ends before after outcome

/-- Who may recover an account: the owner, if nobody else is named. -/
def recoverer (owner : String) (recovery : Option String) : String :=
  (recovery.filter (· ≠ "")).getD owner

theorem Course.mono {ends ends' : Except Failure Int → Prop} {outcome : Except Failure Int}
    (course : Course ledger owner ends before after outcome)
    (implies : Due ledger owner → ends outcome → ends' outcome) :
    Course ledger owner ends' before after outcome := by
  cases course with
  | known registered talk => exact .known registered talk
  | foreign unregistered other same => exact .foreign unregistered other same
  | penniless unregistered own empty same => exact .penniless unregistered own empty same
  | short unregistered own held less same => exact .short unregistered own held less same
  | due due ending => exact .due due (implies due ending)

theorem lookup_inv {outcome : Except Failure Int}
    (run : Runs (lookup owner) before outcome after) (on : before.chain = .ledger ledger) :
    outcome = .ok (ledger.accountOf owner) ∧ after = before := by
  rcases run.bind_inv with ⟨account, middle, read, rest⟩ | ⟨failure, read, -⟩
  · obtain ⟨isAccount, rfl⟩ := Chain.read_inv read on
    cases isAccount
    exact rest.require_inv
  · cases (Chain.read_inv read on).1

/-- The event of a registration counts for the owner, whomever it names. -/
theorem registration?_registration (owner : String) (recovery : Arg) :
    registration? owner (([ledger.registration recovery].filter fun event =>
        event.contract == "IdRegistry" && event.name == "Register").map (·.args)) =
      some (ledger.registration recovery).args := by
  have events : (([ledger.registration recovery].filter fun event =>
      event.contract == "IdRegistry" && event.name == "Register").map (·.args)) =
      [(ledger.registration recovery).args] := rfl
  rw [events, registration?]
  cases fits : isFor owner (ledger.registration recovery).args with
  | true => rw [List.find?_cons_of_pos fits, Option.some_or]
  | false =>
    rw [List.find?_cons_of_neg (by simp [fits])]
    rfl

/-- Reads the number of an account from the events of the transaction that registered it. -/
def numberIn (owner : String) (receipt : Receipt) : Action Int := do
  let events ← Chain.decodeEvents "IdRegistry" "Register" receipt
  match registration? owner events with
  | none => throw (.missingRegistrationEvent receipt.hash owner)
  | some event =>
    let account ← require (argument "id" event).toInt
    note .info .accounts
      s!"Registered fid {Numeral.intText account} for {owner} in tx {receipt.hash}"
    return account

/-- The transaction of a registration, and then the number from its events. -/
theorem register_sends {recovery : String} {price : Int} {outcome : Except Failure Int}
    (run : Runs (register owner recovery price) before outcome after) :
    ∃ noted, Extends noRequest before noted ∧
      Runs (Chain.transact "IdGateway" "register" [.str recovery] price none >>= numberIn owner)
        noted outcome after :=
  ⟨_, .noted _ _ _ _ _, run.note_bind⟩

/-- The events of a registration tell its number, if there are any. -/
theorem numberIn_inv {recovery : Arg} {receipt : Receipt} {outcome : Except Failure Int}
    (run : Runs (numberIn owner receipt) before outcome after)
    (logs : receipt.logs =
      .events (if ledger.emitsEvents then [ledger.registration recovery] else [])) :
    Extends noRequest before after ∧
      outcome = if ledger.emitsEvents then .ok ledger.nextAccount
        else .error (.missingRegistrationEvent receipt.hash owner) := by
  rcases run.bind_inv with ⟨events, middle, read, counting⟩ | ⟨failure, read, -⟩
  · obtain ⟨isEvents, rfl⟩ := Chain.decodeEvents_inv read logs
    cases isEvents
    cases emits : ledger.emitsEvents with
    | true =>
      rw [emits, if_pos rfl, registration?_registration] at counting
      obtain ⟨rfl, rfl⟩ := counting.require_ok_bind.note_bind.pure_inv
      exact ⟨.noted _ _ _ _ _, (if_pos rfl).symm⟩
    | false =>
      rw [emits, if_neg Bool.false_ne_true] at counting
      obtain ⟨rfl, rfl⟩ := counting.throw_inv
      exact ⟨.refl _ _, (if_neg Bool.false_ne_true).symm⟩
  · cases (Chain.decodeEvents_inv read logs).1

theorem register_inv {recovery : String} {price : Int} {outcome : Except Failure Int}
    (run : Runs (register owner recovery price) before outcome after)
    (on : before.chain = .ledger ledger)
    (own : Text.lower owner = Text.lower ledger.address)
    (unregistered : ledger.accountOf owner = 0) :
    Ensured ledger owner before after outcome := by
  obtain ⟨noted, talk, run⟩ := register_sends run
  rcases run.bind_inv with ⟨receipt, middle, sent, rest⟩ | ⟨failure, sent, rfl⟩
  · obtain ⟨ledger', transacted, rfl⟩ := Chain.transact_inv sent (talk.chain.trans on)
    cases transacted with
    | keyBound isContract => exact absurd isContract (by decide)
    | registered _ _ _ _ address keys accounts logs =>
      have account : ledger'.accountOf owner = ledger.nextAccount := by
        rw [Ledger.accountOf, accounts, own, Ledger.lookup_bind]
        rfl
      obtain ⟨more, isOutcome⟩ := numberIn_inv rest logs
      refine .registered unregistered address keys account ⟨_, _, receipt, talk, more⟩ ?_
      intro number isNumber
      rw [isOutcome] at isNumber
      split at isNumber
      · exact (Except.ok.inj isNumber).symm
      · cases isNumber
  · obtain ⟨ledger', transacted, rfl⟩ := Chain.transact_inv sent (talk.chain.trans on)
    cases transacted with
    | failed same => exact .reverted unregistered same ⟨_, _, talk, rfl⟩

/-- Making sure of an account takes one of the courses, and `register` is what may stand at
the end. -/
theorem ensure_course {recovery : Option String} {outcome : Except Failure Int}
    (run : Runs (ensure owner recovery) before outcome after)
    (on : before.chain = .ledger ledger) :
    Course ledger owner
      (Runs (register owner (recoverer owner recovery) ledger.price) before · after)
      before after outcome := by
  rcases run.bind_inv with ⟨account, middle, looked, rest⟩ | ⟨failure, looked, -⟩
  · obtain ⟨isAccount, rfl⟩ := lookup_inv looked on
    cases isAccount
    split at rest
    · next registered =>
      obtain ⟨rfl, rfl⟩ := rest.note_bind.pure_inv
      exact .known registered (.noted _ _ _ _ _)
    next known =>
    have unregistered := Decidable.not_not.mp known
    have rest := rest.get_bind
    rw [on] at rest
    rcases rest.guard_inv with ⟨other, rfl, rfl⟩ | ⟨own, pricing⟩
    · exact .foreign unregistered other rfl
    rcases pricing.bind_inv with ⟨price, middle, read, priced⟩ | ⟨failure, read, -⟩
    · obtain ⟨isPrice, rfl⟩ := Chain.read_inv read on
      cases isPrice
      rcases priced.require_ok_bind.bind_inv with
        ⟨balance, middle, read, guarded⟩ | ⟨failure, read, -⟩
      · obtain ⟨isBalance, rfl⟩ := Chain.balanceOf_inv read on
        cases isBalance
        rcases guarded.guard_inv with ⟨empty, rfl, rfl⟩ | ⟨held, enough⟩
        · exact .penniless unregistered (Decidable.not_not.mp own) empty rfl
        rcases enough.guard_inv with ⟨less, rfl, rfl⟩ | ⟨enough, registering⟩
        · exact .short unregistered (Decidable.not_not.mp own) held less rfl
        exact .due ⟨unregistered, Decidable.not_not.mp own, held, Int.not_lt.mp enough⟩ registering
      · cases (Chain.balanceOf_inv read on).1
    · cases (Chain.read_inv read on).1
  · cases (lookup_inv looked on).1

/-- Making sure of an account ends in one of the four ways. -/
theorem ensure_inv {recovery : Option String} {outcome : Except Failure Int}
    (run : Runs (ensure owner recovery) before outcome after)
    (on : before.chain = .ledger ledger)
    (own : Text.lower owner = Text.lower ledger.address) :
    Ensured ledger owner before after outcome := by
  cases ensure_course run on with
  | known registered talk => exact .known registered talk
  | foreign unregistered other same | penniless unregistered own empty same
  | short unregistered own held less same =>
    subst same
    exact .refused unregistered (.refl _ _)
  | due due registering => exact register_inv registering on own due.unregistered

theorem Ensured.after_talk {start : Session} {outcome : Except Failure Int}
    (talk : Extends noRequest start before) (ensured : Ensured ledger owner before after outcome) :
    Ensured ledger owner start after outcome := by
  cases ensured with
  | known registered more => exact .known registered (talk.trans more)
  | refused unregistered more => exact .refused unregistered (talk.trans more)
  | reverted unregistered same reverts =>
    exact .reverted unregistered same (reverts.after_talk talk)
  | registered unregistered address keys account confirms number =>
    exact .registered unregistered address keys account (confirms.after_talk talk) number

/-- A number that is returned is the one the owner has on the ledger that is left. -/
theorem Ensured.ok_inv {number : Int} (ensured : Ensured ledger owner before after (.ok number))
    (on : before.chain = .ledger ledger)
    (positive : ledger.accountOf owner = 0 → 1 ≤ ledger.nextAccount) :
    number ≠ 0 ∧ ∃ ledger', after.chain = .ledger ledger' ∧ ledger'.address = ledger.address ∧
      ledger'.accountOf owner = number := by
  cases ensured with
  | known registered talk => exact ⟨registered, ledger, talk.chain.trans on, rfl, rfl⟩
  | registered unregistered address keys account confirms isNumber =>
    have isNext := isNumber number rfl
    have := positive unregistered
    exact ⟨by omega, _, confirms.chain, address, account.trans isNext.symm⟩

end Provisioning.Account
