import Provisioning.Proofs.Contract.NodeTransaction
import Provisioning.Proofs.Message.Wire
import Provisioning.Proofs.Run.RequestedKey

/-!
# Failures of the chain behind a signer

Making sure of a signer touches the chain in one place: a key that is handed in is looked up
in the key registry, a fresh one is bound by a transaction (`Authorization.ChainFails`).
A failure of the transaction is passed on as one of the authorization, which names the
account and the key and has the failure of the chain as its cause; a failure of the lookup
is passed on as it is. In both cases nothing else has happened to the session: no hub was
asked and nothing was waited for (`Session.Stays`). Main statement:
`Authorization.ensure_wraps_chain_failure_iff`.
-/

namespace Provisioning

open Contract Session

/-! ## Work with the chain -/

namespace Contract.Remote

variable {link : Node} {contract function : String} {args : List Arg} {value : Int}
variable {gasLimit : Option Int} {before after : Session}

theorem read_asks : Errand.Asks ⟨contract, function, false, none⟩ callMethods
    (read link contract function args) := by
  refine (Errand.Asks.require _).bind fun named => (Errand.Asks.require _).bind fun data => ?_
  exact invoke_asks _ _ _ _

theorem transact_stays {outcome : Except Failure Receipt}
    (run : Runs (transact link contract function args value gasLimit) before outcome after) :
    before.Stays after := by
  rcases (Runs.require_bind run).symm with ⟨_, -, -, rfl⟩ | ⟨⟨registry, entry⟩, -, run⟩
  · exact .refl _
  rcases (Runs.require_bind run).symm with ⟨_, -, -, rfl⟩ | ⟨data, -, run⟩
  · exact .refl _
  rcases (Runs.bind_inv run).symm with ⟨failure, tryRun, -⟩ | ⟨_, tried, tryRun, run⟩
  · exact (rehearse_asks _ tryRun).stays
  refine (rehearse_asks _ tryRun).stays.trans ?_
  rcases (Runs.bind_inv run).symm with ⟨failure, prepareRun, -⟩ | ⟨signed, prepared, prepareRun, run⟩
  · exact (prepare_asks _ _ _ prepareRun).stays
  refine (prepare_asks _ _ _ prepareRun).stays.trans ?_
  have asks : Errand.Asks ⟨contract, function, false, none⟩ [submission]
      (Errand.askHash ⟨contract, function, false, none⟩ submission [.str (Hex.marked signed)]) :=
    (Errand.ask_asks _ _).bind fun answer => Errand.sized_asks _ answer
  rcases (Runs.bind_inv run).symm with ⟨failure, hashRun, -⟩ | ⟨hash, named, hashRun, run⟩
  · exact (asks hashRun).stays
  · exact (asks hashRun).stays.trans (confirm_asks _ _ _ run).stays

end Contract.Remote

namespace Chain

variable {contract function : String} {args : List Arg} {value : Int}
variable {gasLimit : Option Int} {before after : Session}

/-- Reading is work with the chain, wherever the chain is. -/
theorem read_stays {outcome : Except Failure Arg}
    (run : Runs (Chain.read contract function args) before outcome after) :
    before.Stays after := by
  rcases on : before.chain with ledger | link
  · obtain ⟨-, rfl⟩ := Chain.read_inv run on
    exact .refl _
  · have run := Runs.get_bind run
    simp only [on] at run
    exact (Remote.read_asks run).stays

/-- A transaction is work with the chain, wherever the chain is. -/
theorem transact_stays {outcome : Except Failure Receipt}
    (run : Runs (Chain.transact contract function args value gasLimit) before outcome after) :
    before.Stays after := by
  have sends {outcome : Except Failure Receipt} {after : Session}
      (run : Runs (Chain.send contract function args value gasLimit) before outcome after) :
      before.Stays after := by
    rcases on : before.chain with ledger | link
    · generalize called :
        ledger.transact before.clock.unix contract function args value = result
      obtain ⟨-, rfl⟩ := Chain.send_inv run on (called.trans (Prod.eta result).symm)
      exact .recorded trivial
    · have run := Runs.get_bind run
      simp only [on] at run
      exact Remote.transact_stays run
  rcases Runs.bind_inv run with ⟨receipt, sent, sendRun, run⟩ | ⟨failure, sendRun, -⟩
  · obtain ⟨-, rfl⟩ := (Runs.record_bind run).pure_inv
    exact (sends sendRun).trans (.recorded trivial)
  · exact sends sendRun

end Chain

/-! ## Where a signer touches the chain -/

namespace Authorization

variable {settings : Settings} {custody : CustodySigner} {hub : Hub} {account : Json}
variable {owner : String} {key : Option SigningKey} {before after : Session}

/-- The session in which the transaction for a fresh key is sent. -/
def submitting (account : Json) (before : Session) : Session :=
  let noted := Happening.noted .info .authorization
    s!"Authorizing signer {(freshSigner before).keyText} for fid {account.text}"
  { before.nextSeed.2 with journal := before.nextSeed.2.journal ++ [noted] }

/-- The chain fails while a signer is made sure of: at the lookup of the key that is handed
in, or at the transaction for the fresh one. -/
inductive ChainFails (settings : Settings) (custody : CustodySigner) (account : Json)
    (owner : String) (before : Session) : Option SigningKey → Bytes → Failure → Session → Prop where
  | looking {key : SigningKey} {signer : DelegatedSigner} {failure : Failure} {after : Session}
      (made : key.toSigner = .ok signer) (verifies : settings.verifiesSuppliedKey = true)
      (fails : Runs (Chain.read "KeyRegistry" "keyDataOf"
        [Arg.ofJson account, .bytes signer.publicKey]) before (.error failure) after) :
      ChainFails settings custody account owner before (some key) signer.publicKey failure after
  | sending {metadata : Bytes} {failure : Failure} {after : Session}
      (owned : Text.lower owner = Text.lower custody.address)
      (signs : Runs (signedMetadata custody account (freshSigner before).publicKey)
        before.nextSeed.2 (.ok metadata) before.nextSeed.2)
      (fails : Runs (Chain.transact "KeyGateway" "add"
        (keyArguments (freshSigner before).publicKey metadata) 0 none)
        (submitting account before) (.error failure) after) :
      ChainFails settings custody account owner before none (freshSigner before).publicKey
        failure after

theorem submitting_stays (account : Json) (before : Session) :
    before.Stays (submitting account before) := by
  have drawn : before.nextSeed.2.journal = before.journal ∧
      before.nextSeed.2.peers = before.peers ∧ before.nextSeed.2.kept = before.kept := by
    unfold nextSeed
    cases before.seeds <;> exact ⟨rfl, rfl, rfl⟩
  exact ⟨⟨_, congrArg (· ++ _) drawn.1, by simp [Happening.IsChainWork]⟩, drawn.2.1, drawn.2.2⟩

theorem ChainFails.stays {failed : Bytes} {failure : Failure}
    (fails : ChainFails settings custody account owner before key failed failure after) :
    before.Stays after := by
  cases fails with
  | looking made verifies fails => exact Chain.read_stays fails
  | sending owned signs fails => exact (submitting_stays account before).trans (Chain.transact_stays fails)

/-- A failure of the chain at the lookup ends the stage as it is. -/
theorem ensure_looking {key : SigningKey} {signer : DelegatedSigner} {failure : Failure}
    (made : key.toSigner = .ok signer) (verifies : settings.verifiesSuppliedKey = true)
    (fails : Runs (Chain.read "KeyRegistry" "keyDataOf"
      [Arg.ofJson account, .bytes signer.publicKey]) before (.error failure) after) :
    Runs (ensure settings custody hub account owner (some key)) before (.error failure) after := by
  have looked : Runs (isAuthorized account signer.publicKey) before (.error failure) after :=
    fails.bind_error
  have adopting : Runs (adopt settings account signer) before (.error failure) after := by
    unfold adopt
    rw [if_pos verifies]
    exact looked.bind_error
  show Runs (require key.toSigner >>= adopt settings account) before (.error failure) after
  rw [made]
  exact adopting

/-- A failure of the chain at the transaction is passed on as one of the authorization. -/
theorem ensure_sending {metadata : Bytes} {failure : Failure} (ofChain : failure.isOfChain)
    (owned : Text.lower owner = Text.lower custody.address)
    (signs : Runs (signedMetadata custody account (freshSigner before).publicKey)
      before.nextSeed.2 (.ok metadata) before.nextSeed.2)
    (fails : Runs (Chain.transact "KeyGateway" "add"
      (keyArguments (freshSigner before).publicKey metadata) 0 none)
      (submitting account before) (.error failure) after) :
    Runs (ensure settings custody hub account owner none) before
      (.error (.signerAuthorization account (freshSigner before).publicKey failure.message
        (some failure))) after := by
  have submitted : Runs (submitKey account (freshSigner before).publicKey metadata)
      (submitting account before) (.error (.signerAuthorization account
        (freshSigner before).publicKey failure.message (some failure))) after := by
    refine Runs.tryCatch_error fails ?_
    cases failure with
    | chainTransaction => rfl
    | _ => cases ofChain
  have drawn : Runs generateSigner before (.ok (freshSigner before)) before.nextSeed.2 := rfl
  refine drawn.bind ?_
  rw [if_neg (not_not_intro owned)]
  refine signs.bind ?_
  exact submitted.bind_error

/-- The chain fails while a signer is made sure of. The stage ends in a failure of the
authorization, with the account, the key and the failure of the chain as its cause, exactly if
no key was handed in; if one was, the stage ends in the failure of the chain itself. Either
way nothing is handed out or kept, no request is sent and nothing is waited for. -/
theorem ensure_wraps_chain_failure_iff {failed : Bytes} {failure : Failure} {ended : Session}
    {outcome : Except Failure DelegatedSigner}
    (fails : ChainFails settings custody account owner before key failed failure after)
    (ofChain : failure.isOfChain)
    (run : Runs (ensure settings custody hub account owner key) before outcome ended) :
    (outcome = .error (.signerAuthorization account failed failure.message (some failure)) ↔
      key = none) ∧
    (key ≠ none → outcome = .error failure) ∧ before.Stays ended := by
  have stays := fails.stays
  cases fails with
  | looking made verifies fails =>
    obtain ⟨rfl, rfl⟩ := run.unique (ensure_looking made verifies fails)
    refine ⟨⟨fun wrapped => ?_, nofun⟩, fun _ => rfl, stays⟩
    rw [Except.error.inj wrapped] at ofChain
    cases ofChain
  | sending owned signs fails =>
    obtain ⟨rfl, rfl⟩ := run.unique (ensure_sending ofChain owned signs fails)
    exact ⟨⟨fun _ => rfl, fun _ => rfl⟩, fun supplied => absurd rfl supplied, stays⟩

/-! ### A transaction that is reverted -/

/-- A session whose ledger is prepared to revert the next key. -/
def haltedSession : Session :=
  { ownerSession with chain := .ledger (ownedLedger.failNext "KeyGateway" "add" "halted") }

theorem haltedSession_fails :
    ∃ failure after, failure.isOfChain = true ∧
      ChainFails (Settings.ofEndpoints "http://chain" "01" "http://hub") leastCustody (.int 7)
        leastCustody.address haltedSession none (freshSigner haltedSession).publicKey failure
        after := by
  have time : ownerSession.clock.time.truncate? = some 1700000000 := by decide +kernel
  have telling : ownerSession.clock.unix = .ok 1700000000 := by
    simp only [Clock.unix, Json.toInt, time]
  have isAccount : (0 : Int) ≤ 7 ∧ (7 : Int) < 2 ^ 256 := by decide
  have isDeadline : 0 ≤ 1700000000 + requestLifetime ∧
      1700000000 + requestLifetime < 2 ^ 256 := by decide
  obtain ⟨metadata, signature, hash, signed, encoded, -⟩ := KeyRequest.exists_request
    ofKey_leastSecret (freshSigner haltedSession).publicKey isAccount isDeadline
  obtain ⟨outcome, ended, signing⟩ := Runs.exists_run (signedMetadata leastCustody (.int 7)
    (freshSigner haltedSession).publicKey) haltedSession.nextSeed.2
  obtain ⟨rfl, rfl⟩ := signedMetadata_ok signing telling ⟨signature, signed, encoded⟩
  obtain ⟨outcome, after, sending⟩ := Runs.exists_run (Chain.transact "KeyGateway" "add"
    (keyArguments (freshSigner haltedSession).publicKey metadata) 0 none)
    (submitting (.int 7) haltedSession)
  obtain ⟨rfl, -⟩ := Chain.transact_called sending rfl rfl
  exact ⟨_, after, rfl, .sending rfl signing sending⟩

theorem haltedSession_wraps :
    ∃ failure after outcome ended, failure.isOfChain = true ∧
      ChainFails (Settings.ofEndpoints "http://chain" "01" "http://hub") leastCustody (.int 7)
        leastCustody.address haltedSession none (freshSigner haltedSession).publicKey failure
        after ∧
      Runs (ensure (Settings.ofEndpoints "http://chain" "01" "http://hub") leastCustody
        ⟨"http://hub", none⟩ (.int 7) leastCustody.address none) haltedSession outcome ended ∧
      outcome = .error (.signerAuthorization (.int 7) (freshSigner haltedSession).publicKey
        failure.message (some failure)) ∧
      haltedSession.Stays ended := by
  obtain ⟨failure, after, ofChain, fails⟩ := haltedSession_fails
  obtain ⟨outcome, ended, run⟩ := Runs.exists_run
    (ensure (Settings.ofEndpoints "http://chain" "01" "http://hub") leastCustody
      ⟨"http://hub", none⟩ (.int 7) leastCustody.address none) haltedSession
  obtain ⟨wraps, -, stays⟩ := ensure_wraps_chain_failure_iff fails ofChain run
  exact ⟨failure, after, outcome, ended, ofChain, fails, run, wraps.mpr rfl, stays⟩

/-! ### A registry that cannot be reached -/

/-- Settings that ask for a look at every key that is handed in. -/
def lookingSettings : Settings :=
  { Settings.ofEndpoints "http://chain" "01" "http://hub" with verifiesSuppliedKey := true }

/-- A session whose node does not answer. -/
def unreachableSession : Session :=
  { ownerSession with chain := .node { Chain.sampleNode with script := [] } }

/-- What comes of the lookup of a key there. -/
def unreachableLook : Except Failure Arg × Session :=
  StateT.run (ExceptT.run (Chain.read "KeyRegistry" "keyDataOf"
    [Arg.ofJson (.int 7), .bytes Message.sampleSigner.publicKey])) unreachableSession

theorem unreachableLook_fails :
    ∃ failure, unreachableLook.1 = .error failure ∧ failure.isOfChain := by
  have fails : (match unreachableLook.1 with
      | .error failure => failure.isOfChain
      | .ok _ => false) = true := by
    decide +kernel
  cases ended : unreachableLook.1 with
  | ok value =>
    rw [ended] at fails
    cases fails
  | error failure =>
    rw [ended] at fails
    exact ⟨failure, rfl, fails⟩

/-- A key is handed in and the registry cannot be reached: the failure is the chain's, and not
one of the authorization. -/
theorem unreachable_registry_escapes :
    ∃ failure after, failure.isOfChain = true ∧
      ChainFails lookingSettings leastCustody (.int 7) leastCustody.address unreachableSession
        (some (.signer Message.sampleSigner)) Message.sampleSigner.publicKey failure after ∧
      Runs (ensure lookingSettings leastCustody ⟨"http://hub", none⟩ (.int 7) leastCustody.address
        (some (.signer Message.sampleSigner))) unreachableSession (.error failure) after ∧
      ∀ account key reason cause, failure ≠ .signerAuthorization account key reason cause := by
  obtain ⟨failure, isError, ofChain⟩ := unreachableLook_fails
  have fails : Runs (Chain.read "KeyRegistry" "keyDataOf"
      [Arg.ofJson (.int 7), .bytes Message.sampleSigner.publicKey]) unreachableSession
      (.error failure) unreachableLook.2 := isError ▸ .run _ _
  refine ⟨failure, unreachableLook.2, ofChain, .looking rfl rfl fails,
    ensure_looking rfl rfl fails, ?_⟩
  rintro account key reason cause rfl
  cases ofChain

end Authorization

end Provisioning
