import Provisioning.Authorization
import Provisioning.Proofs.Session.Chain
import Provisioning.Proofs.Session.Exchange

/-!
# Making sure of a signer

What `Authorization.ensure` comes to on a ledger. A signer that is handed in is taken
without any transaction (`Authorization.adopt_inv`). A fresh one is refused before its
transaction, or the transaction fails, or it is confirmed and the key is left to settle
(`Authorization.authorize_inv`). Without polling, settling cannot fail.
-/

namespace Provisioning.Authorization

open Contract Session

variable {settings : Settings} {custody : CustodySigner} {hub : Hub} {account : Json}
variable {owner : String} {before after : Session} {ledger : Ledger}

/-! ## Signers that are handed in -/

theorem isAuthorized_inv {number : Int} {key : Bytes} {outcome : Except Failure Bool}
    (run : Runs (isAuthorized (.int number) key) before outcome after)
    (on : before.chain = .ledger ledger) :
    outcome = .ok (ledger.keyState number key == .added) ∧ after = before := by
  have state : ledger.read "KeyRegistry" "keyDataOf" [Arg.ofJson (.int number), .bytes key] =
      .ok (.list [.int (ledger.keyState number key).code, .int 1]) := rfl
  rcases run.bind_inv with ⟨value, middle, read, rest⟩ | ⟨failure, read, rfl⟩
  · obtain ⟨isValue, rfl⟩ := Chain.read_inv read on
    rw [state] at isValue
    cases isValue
    obtain ⟨rfl, rfl⟩ := rest.pure_inv
    refine ⟨?_, rfl⟩
    cases ledger.keyState number key <;> rfl
  · obtain ⟨isError, rfl⟩ := Chain.read_inv read on
    rw [state] at isError
    cases isError

/-- A signer that is handed in is taken without a transaction; if the settings ask for a
look into the registry, only if its key is bound. -/
theorem adopt_inv {number : Int} {signer : DelegatedSigner}
    {outcome : Except Failure DelegatedSigner}
    (run : Runs (adopt settings (.int number) signer) before outcome after)
    (on : before.chain = .ledger ledger) :
    Extends noRequest before after ∧ ∀ taken, outcome = .ok taken →
      taken = signer.mark .active ∧
      (settings.verifiesSuppliedKey = true →
        ledger.keyState number signer.publicKey = .added) := by
  unfold adopt at run
  split at run
  · rcases run.bind_inv with ⟨authorized, middle, looked, rest⟩ | ⟨failure, looked, -⟩
    · obtain ⟨isState, rfl⟩ := isAuthorized_inv looked on
      cases isState
      rcases rest.guard_inv with ⟨-, rfl, rfl⟩ | ⟨passes, taking⟩
      · exact ⟨.refl _ _, nofun⟩
      · obtain ⟨rfl, rfl⟩ := taking.note_bind.pure_inv
        refine ⟨.noted _ _ _ _ _, ?_⟩
        intro taken isOk
        cases isOk
        refine ⟨rfl, fun _ => ?_⟩
        simpa using passes
    · cases (isAuthorized_inv looked on).1
  · next unverified =>
    obtain ⟨rfl, rfl⟩ := run.note_bind.pure_inv
    refine ⟨.noted _ _ _ _ _, ?_⟩
    intro taken isOk
    cases isOk
    exact ⟨rfl, fun verifies => absurd verifies unverified⟩

/-! ## Fresh signers -/

theorem generateSigner_inv {outcome : Except Failure DelegatedSigner}
    (run : Runs generateSigner before outcome after) :
    outcome = .ok (DelegatedSigner.ofSeed before.nextSeed.1 .unregistered) ∧
      Extends noRequest before after := by
  obtain ⟨rfl, rfl⟩ := (Runs.set_bind (Runs.get_bind run)).pure_inv
  refine ⟨rfl, ?_⟩
  split
  · next seed rest isSeeds =>
    exact .of_journal_eq rfl rfl (isSeeds ▸ List.subset_cons_self seed rest) rfl rfl
  · exact .of_journal_eq rfl rfl (List.Subset.refl _) rfl rfl

theorem talks_signedMetadata (custody : CustodySigner) (account : Json) (key : Bytes) :
    Talks noRequest (signedMetadata custody account key) :=
  .bind .unixTime fun _ => .bind (.require _) fun _ => .require _

/-- What a failure of the transaction for a key is passed on as. -/
def refusalOf (account : Json) (key : Bytes) (failure : Failure) : Failure :=
  match failure with
  | .chainTransaction .. => .signerAuthorization account key failure.message (some failure)
  | other => other

/-- The transaction for a key ends in what the ledger makes of it. -/
theorem submitKey_called {key metadata : Bytes} {outcome result : Except Failure Receipt}
    {ledger' : Ledger}
    (run : Runs (submitKey account key metadata) before outcome after)
    (on : before.chain = .ledger ledger)
    (called : ledger.transact before.clock.unix "KeyGateway" "add" (keyArguments key metadata) 0 =
      (result, ledger')) :
    outcome = result.mapError (refusalOf account key) ∧
      after = before.sending ledger'
        (Chain.happeningsOf ledger "KeyGateway" "add" (keyArguments key metadata) 0 result) := by
  rcases run.tryCatch_inv with ⟨receipt, sent, rfl⟩ | ⟨failure, middle, sent, handled⟩
  · obtain ⟨rfl, rfl⟩ := Chain.transact_called sent on called
    exact ⟨rfl, rfl⟩
  · have thrown : outcome = .error (refusalOf account key failure) ∧ after = middle := by
      cases failure <;> exact handled.throw_inv
    obtain ⟨rfl, rfl⟩ := thrown
    obtain ⟨rfl, rfl⟩ := Chain.transact_called sent on called
    exact ⟨rfl, rfl⟩

/-- What binding a key comes to on a ledger. -/
theorem submitKey_inv {key metadata : Bytes} {outcome : Except Failure Receipt}
    (run : Runs (submitKey account key metadata) before outcome after)
    (on : before.chain = .ledger ledger) :
    ∃ ledger',
      (∃ failure, outcome = .error failure ∧ Ledger.SameRegistries ledger ledger' ∧
        after = before.sending ledger'
          [.sent (Chain.recordOf ledger "KeyGateway" "add" (keyArguments key metadata) 0)]) ∨
      (∃ receipt, outcome = .ok receipt ∧ ledger.accountOf ledger.address ≠ 0 ∧
        ledger'.address = ledger.address ∧ ledger'.accounts = ledger.accounts ∧
        ledger'.keyState (ledger.accountOf ledger.address) key = .added ∧
        after = before.sending ledger'
          [.sent (Chain.recordOf ledger "KeyGateway" "add" (keyArguments key metadata) 0),
            .confirmed "KeyGateway" "add" receipt]) := by
  generalize called : ledger.transact before.clock.unix "KeyGateway" "add"
    (keyArguments key metadata) 0 = result
  obtain ⟨result, ledger'⟩ := result
  obtain ⟨rfl, rfl⟩ := submitKey_called run on called
  refine ⟨ledger', ?_⟩
  cases Ledger.transact_inv called with
  | failed same => exact .inl ⟨_, rfl, same, rfl⟩
  | registered isContract => exact absurd isContract (by decide)
  | keyBound _ _ isArgs isKey registered address accounts keys =>
    cases isArgs
    cases isKey
    refine .inr ⟨_, rfl, registered, address, accounts, ?_, rfl⟩
    rw [Ledger.keyState, keys, Ledger.findKey_putKey]
    rfl

/-! ## Settling -/

/-- The requests that a hub gets while a key settles. -/
def IsSettling (hub : Hub) (request : Http.Request) : Prop :=
  hub.IsListing request ∨ hub.IsRetry request

theorem talks_poll (key : Bytes) (timeout interval start : Binary64) :
    ∀ retries, Talks hub.IsListing (poll hub account key timeout interval start retries)
  | 0 => .bind (hub.talks_keysOf account) fun _ => .pure _
  | retries + 1 => by
    refine .bind (hub.talks_keysOf account) fun keys => .ite (fun _ => .pure _) fun _ => ?_
    refine .bind .get fun session => .ite (fun _ => .pure _) fun _ => ?_
    exact .bind (.sleep _) fun _ => talks_poll key timeout interval start retries

theorem talks_awaitVisible (key : Bytes) :
    Talks hub.IsListing (awaitVisible settings hub account key) := by
  refine .bind (.require _) fun count => .bind .get fun session => ?_
  refine .bind (talks_poll key _ _ _ count) fun seen => ?_
  exact .ite (fun _ => .bind (.note _ _ _) fun _ => .pure _) fun _ => .pure _

theorem talks_checkVisible (key : Bytes) :
    Talks (IsSettling hub) (checkVisible settings hub account key) := by
  refine .bind ((talks_awaitVisible key).mono fun _ => .inl) fun seen => ?_
  refine .ite (fun _ => .pure _) fun _ => .bind (.note _ _ _) fun _ => ?_
  exact .bind ((hub.talks_retryEvents account).mono fun _ => .inr) fun _ => .pure _

theorem talks_isVisible (key : Bytes) :
    Talks (IsSettling hub) (isVisible settings hub account key) := by
  refine .ite (fun _ => .pure _) fun _ => .tryCatch (talks_checkVisible key) fun failure => ?_
  exact .ite (fun _ => .bind (.note _ _ _) fun _ => .pure _) fun _ => .throw _

theorem talks_settle (key : Bytes) :
    Talks (IsSettling hub) (settle settings hub account key) := by
  refine .bind (talks_isVisible key) fun seen => .ite (fun _ => .pure _) fun _ => ?_
  exact .ite (fun _ => .bind (.note _ _ _) fun _ => .sleep _) fun _ => .pure _

/-- Without polling, settling cannot fail. -/
theorem settle_ok (patient : settings.pollsVisibility = false) {key : Bytes}
    {outcome : Except Failure Unit}
    (run : Runs (settle settings hub account key) before outcome after) : outcome = .ok () := by
  have unseen : isVisible settings hub account key = pure false := by
    simp [isVisible, patient]
  rw [settle, unseen] at run
  have run := run.pure_bind
  simp only [Bool.false_eq_true, if_false] at run
  split at run
  · obtain ⟨isOk, -⟩ := (Runs.record_bind run.note_bind).modify_inv
    exact isOk
  · exact run.pure_inv.1

/-! ## The whole authorization -/

/-- The signer that an authorization makes: the next fresh key. -/
def freshSigner (session : Session) : DelegatedSigner :=
  .ofSeed session.nextSeed.1 .unregistered

/-- What the authorization of a fresh signer comes to on a ledger. -/
inductive Authorized (settings : Settings) (hub : Hub) (account : Json) (ledger : Ledger)
    (before after : Session) : Except Failure DelegatedSigner → Prop where
  | refused {failure : Failure} (talk : Extends noRequest before after) :
      Authorized settings hub account ledger before after (.error failure)
  | reverted {failure : Failure} {ledger' : Ledger} (same : Ledger.SameRegistries ledger ledger')
      (reverts : Reverts ledger' before after) :
      Authorized settings hub account ledger before after (.error failure)
  | bound {ledger' : Ledger} {transaction : Transaction} {receipt : Receipt}
      {ready settling : Session} {settled : Except Failure Unit}
      (registered : ledger.accountOf ledger.address ≠ 0)
      (address : ledger'.address = ledger.address) (accounts : ledger'.accounts = ledger.accounts)
      (added : ledger'.keyState (ledger.accountOf ledger.address)
        (freshSigner before).publicKey = .added)
      (talk : Extends noRequest before ready)
      (noted : Extends noRequest
        (ready.sending ledger' [.sent transaction, .confirmed "KeyGateway" "add" receipt]) settling)
      (settles : Runs (settle settings hub account (freshSigner before).publicKey) settling
        settled after) :
      Authorized settings hub account ledger before after
        (settled.map fun _ => (freshSigner before).mark .active)

/-- A key that is bound is confirmed, and what comes behind it is talk with the hub. -/
theorem confirms_of_settles {ledger' : Ledger} {transaction : Transaction} {receipt : Receipt}
    {ready settling : Session} {key : Bytes} {settled : Except Failure Unit}
    (talk : Extends noRequest before ready)
    (noted : Extends noRequest
      (ready.sending ledger' [.sent transaction, .confirmed "KeyGateway" "add" receipt]) settling)
    (settles : Runs (settle settings hub account key) settling settled after) :
    Confirms (IsSettling hub) "KeyGateway" "add" ledger' before after :=
  ⟨_, _, _, talk, (noted.mono fun _ none => none.elim).trans (talks_settle _ settles)⟩

theorem authorize_inv {outcome : Except Failure DelegatedSigner}
    (run : Runs (authorize settings custody hub account owner) before outcome after)
    (on : before.chain = .ledger ledger) :
    Authorized settings hub account ledger before after outcome := by
  rcases run.bind_inv with ⟨signer, made, generated, guarded⟩ | ⟨failure, generated, -⟩
  · obtain ⟨isFresh, fresh⟩ := generateSigner_inv generated
    have isFresh : signer = freshSigner before := Except.ok.inj isFresh
    subst isFresh
    rcases guarded.guard_inv with ⟨-, rfl, rfl⟩ | ⟨-, signing⟩
    · exact .refused fresh
    rcases signing.bind_inv with ⟨metadata, signed, making, noting⟩ | ⟨failure, making, rfl⟩
    · have talk (text : String) := (fresh.trans (talks_signedMetadata _ _ _ making)).trans
        (.noted noRequest signed .info .authorization text)
      rcases noting.note_bind.bind_inv with ⟨receipt, bound, sent, rest⟩ | ⟨failure, sent, rfl⟩
      · obtain ⟨ledger', ⟨_, isError, -, -⟩ | ⟨receipt', isOk, registered, address, accounts,
          added, rfl⟩⟩ := submitKey_inv sent ((talk _).chain.trans on)
        · cases isError
        · have settling := rest.note_bind
          rcases settling.bind_inv with ⟨_, last, settled, returning⟩ | ⟨failure, settled, rfl⟩
          · obtain ⟨rfl, rfl⟩ := returning.pure_inv
            exact .bound registered address accounts added (talk _) (.noted _ _ _ _ _) settled
          · exact .bound registered address accounts added (talk _) (.noted _ _ _ _ _) settled
      · obtain ⟨ledger', ⟨_, -, same, rfl⟩ | ⟨receipt, isOk, -⟩⟩ :=
          submitKey_inv sent ((talk _).chain.trans on)
        · exact .reverted same ⟨_, _, talk _, rfl⟩
        · cases isOk
    · exact .refused (fresh.trans (talks_signedMetadata _ _ _ making))
  · cases (generateSigner_inv generated).1

theorem ensure_some_inv {number : Int} {key : SigningKey}
    {outcome : Except Failure DelegatedSigner}
    (run : Runs (ensure settings custody hub (.int number) owner (some key)) before outcome after)
    (on : before.chain = .ledger ledger) :
    Extends noRequest before after ∧ ∀ taken, outcome = .ok taken →
      ∃ signer, key.toSigner = .ok signer ∧ taken = signer.mark .active ∧
        (settings.verifiesSuppliedKey = true →
          ledger.keyState number signer.publicKey = .added) := by
  rcases run.require_bind with ⟨signer, isSigner, adopting⟩ | ⟨fault, -, rfl, rfl⟩
  · obtain ⟨talk, takes⟩ := adopt_inv adopting on
    refine ⟨talk, fun taken isTaken => ?_⟩
    obtain ⟨isMark, verified⟩ := takes taken isTaken
    exact ⟨signer, isSigner, isMark, verified⟩
  · exact ⟨.refl _ _, nofun⟩

theorem ensure_none_inv {outcome : Except Failure DelegatedSigner}
    (run : Runs (ensure settings custody hub account owner none) before outcome after)
    (on : before.chain = .ledger ledger) :
    Authorized settings hub account ledger before after outcome :=
  authorize_inv run on

/-- Who signs is authorized: the account of the address is what it was, and the key is
bound to it if it is a fresh one or the settings ask for a look into the registry. -/
theorem ensure_ok_inv {number : Int} {key : Option SigningKey} {taken : DelegatedSigner}
    (run : Runs (ensure settings custody hub (.int number) owner key) before (.ok taken) after)
    (on : before.chain = .ledger ledger) (isNumber : ledger.accountOf ledger.address = number) :
    ∃ ledger', after.chain = .ledger ledger' ∧ ledger'.accounts = ledger.accounts ∧
      (key = none ∨ settings.verifiesSuppliedKey = true →
        ledger'.keyState number taken.publicKey = .added) := by
  cases key with
  | some key =>
    obtain ⟨talk, takes⟩ := ensure_some_inv run on
    obtain ⟨signer, -, rfl, verified⟩ := takes taken rfl
    refine ⟨ledger, talk.chain.trans on, rfl, ?_⟩
    intro asked
    rcases asked with isNone | verifies
    · cases isNone
    · exact verified verifies
  | none =>
    generalize isOk : Except.ok taken = outcome at run
    cases ensure_none_inv run on with
    | refused talk => cases isOk
    | reverted same reverts => cases isOk
    | bound registered address accounts added talk noted settles =>
      rename_i settled
      cases settled with
      | error failure => cases isOk
      | ok =>
        cases isOk
        refine ⟨_, (talks_settle _ settles).chain.trans noted.chain, accounts, fun _ => ?_⟩
        rw [isNumber] at added
        exact added

end Provisioning.Authorization
