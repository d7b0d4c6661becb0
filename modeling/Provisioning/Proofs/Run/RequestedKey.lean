import Provisioning.Proofs.Contract.KeyAddition
import Provisioning.Proofs.Message.Wire
import Provisioning.Proofs.Run.Authorization
import Provisioning.Proofs.Signer.KeyRequest

/-!
# The request for a fresh key

Making sure of a signer without a key sends one transaction, and hands the key out or
passes the failure on, as the ledger decides (`Authorization.authorize_called`). The
transaction carries a request for the fresh key, signed for the account and for an hour: a
ledger on which the custody address has the account takes the request and binds the key,
and any other one reverts it (`Authorization.ensure_requests_key`).
-/

namespace Provisioning

open Contract Session

namespace Authorization

variable {settings : Settings} {custody : CustodySigner} {hub : Hub} {owner : String}
variable {before after : Session} {ledger : Ledger} {fid now : Int}
variable {outcome : Except Failure DelegatedSigner}

theorem clock_nextSeed (session : Session) : session.nextSeed.2.clock = session.clock := by
  rw [nextSeed]
  split <;> rfl

theorem chain_nextSeed (session : Session) : session.nextSeed.2.chain = session.chain := by
  rw [nextSeed]
  split <;> rfl

theorem peers_nextSeed (session : Session) : session.nextSeed.2.peers = session.peers := by
  rw [nextSeed]
  split <;> rfl

/-- The metadata carry the custody key's signature of a request that is made at a time. -/
def Signs (custody : CustodySigner) (account : Json) (key : Bytes) (now : Int)
    (metadata : Bytes) : Prop :=
  ∃ signature,
    KeyRequest.sign custody (Arg.ofJson account) key (.int (now + requestLifetime)) =
      .ok signature ∧
    KeyRequest.metadata (Arg.ofJson account) (.str custody.address) signature
      (.int (now + requestLifetime)) = .ok metadata

theorem signedMetadata_ok {account : Json} {key metadata : Bytes}
    {outcome : Except Failure Bytes}
    (run : Runs (signedMetadata custody account key) before outcome after)
    (telling : before.clock.unix = .ok now)
    (signs : Signs custody account key now metadata) :
    outcome = .ok metadata ∧ after = before := by
  obtain ⟨signature, signed, encoded⟩ := signs
  have run := run.unixTime_bind
  rw [telling] at run
  have run := run.require_ok_bind
  simp only [signed] at run
  have run := run.require_ok_bind
  rw [encoded] at run
  exact run.pure_inv

/-- A fresh key is made, and its request is sent; what is left to do then is to wait. -/
theorem authorize_opens {account : Json} {metadata : Bytes}
    (run : Runs (authorize settings custody hub account owner) before outcome after)
    (owned : Text.lower owner = Text.lower custody.address)
    (telling : before.clock.unix = .ok now)
    (signs : Signs custody account (freshSigner before).publicKey now metadata) :
    ∃ ready, Extends noRequest before ready ∧ ready.clock = before.clock ∧
      Runs (do
        let receipt ← submitKey account (freshSigner before).publicKey metadata
        note .info .authorization s!"Signer add confirmed in tx {receipt.hash}"
        settle settings hub account (freshSigner before).publicKey
        return (freshSigner before).mark .active) ready outcome after := by
  rcases run.bind_inv with ⟨signer, made, generated, guarded⟩ | ⟨failure, generated, -⟩
  · obtain ⟨isFresh, fresh⟩ := generateSigner_inv generated
    have isFresh : signer = freshSigner before := Except.ok.inj isFresh
    subst isFresh
    have isMade : made = before.nextSeed.2 :=
      (Runs.set_bind (Runs.get_bind generated)).pure_inv.2
    have clock : made.clock = before.clock := by rw [isMade, clock_nextSeed]
    rcases guarded.guard_inv with ⟨strange, -, -⟩ | ⟨-, signing⟩
    · exact absurd owned strange
    rcases signing.bind_inv with ⟨bytes, ready, making, noting⟩ | ⟨failure, making, -⟩
    · obtain ⟨isBytes, rfl⟩ := signedMetadata_ok making (clock ▸ telling) signs
      cases isBytes
      exact ⟨_, fresh.trans (.noted _ _ _ _ _), clock, noting.note_bind⟩
    · cases (signedMetadata_ok making (clock ▸ telling) signs).1
  · cases (generateSigner_inv generated).1

/-- Once the ledger has made something of the request, nothing else is sent, and the key is
handed out or the failure passed on. -/
theorem authorize_called {account : Json} {metadata : Bytes}
    {result : Except Failure Receipt} {ledger' : Ledger}
    (run : Runs (authorize settings custody hub account owner) before outcome after)
    (on : before.chain = .ledger ledger)
    (owned : Text.lower owner = Text.lower custody.address)
    (patient : settings.pollsVisibility = false) (telling : before.clock.unix = .ok now)
    (signs : Signs custody account (freshSigner before).publicKey now metadata)
    (called : ledger.transact (.ok now) "KeyGateway" "add"
      (keyArguments (freshSigner before).publicKey metadata) 0 = (result, ledger')) :
    transactionsOf after.journal = transactionsOf before.journal ++
        [ledger.addition (freshSigner before).publicKey metadata] ∧
      after.chain = .ledger ledger' ∧
      outcome = (result.mapError (refusalOf account (freshSigner before).publicKey)).map
        fun _ => (freshSigner before).mark .active := by
  obtain ⟨ready, talk, clock, submitting⟩ := authorize_opens run owned telling signs
  rw [← telling, ← clock] at called
  have sent : transactionsOf (ready.sending ledger' (Chain.happeningsOf ledger "KeyGateway" "add"
      (keyArguments (freshSigner before).publicKey metadata) 0 result)).journal =
      transactionsOf before.journal ++
        [ledger.addition (freshSigner before).publicKey metadata] := by
    rw [Session.sending, transactionsOf_append, transactionsOf_happeningsOf, talk.transactionsOf]
    rfl
  rcases submitting.bind_inv with ⟨receipt, middle, submitted, rest⟩ | ⟨failure, submitted, rfl⟩
  · obtain ⟨isResult, rfl⟩ := submitKey_called submitted (talk.chain.trans on) called
    rw [← isResult]
    rcases rest.note_bind.bind_inv with ⟨_, last, settled, done⟩ | ⟨failure, settled, -⟩
    · obtain ⟨rfl, rfl⟩ := done.pure_inv
      have quiet := (Extends.noted (IsSettling hub) _ _ _ _).trans (talks_settle _ settled)
      exact ⟨quiet.transactionsOf.trans sent, quiet.chain, rfl⟩
    · cases settle_ok patient settled
  · obtain ⟨isResult, rfl⟩ := submitKey_called submitted (talk.chain.trans on) called
    rw [← isResult]
    exact ⟨sent, rfl, rfl⟩

/-- Making sure of a signer without a key sends one transaction, and its metadata are the
request for the fresh key, for the account and for an hour. If the custody address has the
account and the key is not bound yet, the key is bound, and would be at any time up to the
deadline; the ledger has nothing else but a record and a block more, and the signer is
handed out, active. If the custody address has another account or none, the transaction is
reverted, and only its record stays. -/
theorem ensure_requests_key {material : Arg} {key : Bytes}
    (made : CustodySigner.ofKey material = .ok custody)
    (on : before.chain = .ledger ledger)
    (sender : Text.lower ledger.address = Text.lower custody.address)
    (unprepared : Ledger.lookup ("KeyGateway", "add") ledger.failures = none)
    (owned : Text.lower owner = Text.lower custody.address)
    (patient : settings.pollsVisibility = false) (isAccount : 1 ≤ fid ∧ fid < 2 ^ 256)
    (telling : before.clock.unix = .ok now) (isNow : 0 ≤ now ∧ now < 2 ^ 64)
    (isKey : (freshSigner before).publicKey = key)
    (run : Runs (ensure settings custody hub (.int fid) owner none) before outcome after) :
    ∃ metadata signature hash,
      KeyRequest.IsRequest custody fid key (now + 3600) metadata signature hash ∧
      transactionsOf after.journal =
        transactionsOf before.journal ++ [ledger.addition key metadata] ∧
      (ledger.accountOf custody.address = fid → ledger.keyState fid key ≠ .added →
        outcome = .ok ((freshSigner before).mark .active) ∧
        after.chain = .ledger (ledger.binding fid key (ledger.addition key metadata)) ∧
        ∀ late ≤ now + 3600, ∃ receipt,
          ledger.transact (.ok late) "KeyGateway" "add" (keyArguments key metadata) 0 =
            (.ok receipt, ledger.binding fid key (ledger.addition key metadata))) ∧
      (ledger.accountOf custody.address ≠ fid → ∃ reason cause,
        cause = Ledger.reverted "KeyGateway" "add" reason
          (Ledger.hashOf (ledger.records.length + 1)) ∧
        outcome = .error (.signerAuthorization (.int fid) key cause.message (some cause)) ∧
        after.chain = .ledger
          { ledger with records := ledger.records ++ [ledger.addition key metadata] }) := by
  subst isKey
  have isDeadline : 0 ≤ now + 3600 ∧ now + 3600 < 2 ^ 256 := by omega
  obtain ⟨metadata, signature, hash, signed, encoded, request⟩ := KeyRequest.exists_request made
    (freshSigner before).publicKey ⟨by omega, isAccount.2⟩ isDeadline
  have own : ledger.accountOf ledger.address = ledger.accountOf custody.address := by
    rw [Ledger.accountOf, Ledger.accountOf, sender]
  have sends {result : Except Failure Receipt} {ledger' : Ledger}
      (called : ledger.transact (.ok now) "KeyGateway" "add"
        (keyArguments (freshSigner before).publicKey metadata) 0 = (result, ledger')) :=
    authorize_called run on owned patient telling ⟨signature, signed, encoded⟩ called
  refine ⟨metadata, signature, hash, request, (sends (Prod.eta _).symm).1, ?_, ?_⟩
  · intro isOwn unbound
    have binds (late : Int) (early : late ≤ now + 3600) :=
      Ledger.transact_add_bound unprepared request.decoded (own.trans isOwn) (by omega)
        request.signature_ne_nil early unbound
    obtain ⟨receipt, called⟩ := binds now (by omega)
    obtain ⟨-, chain, isOk⟩ := sends called
    exact ⟨isOk, chain, binds⟩
  · intro foreign
    obtain ⟨reason, called⟩ := Ledger.transact_add_foreign unprepared request.decoded
      (fun same => foreign (own.symm.trans same))
    obtain ⟨-, chain, failed⟩ := sends called
    exact ⟨reason, _, rfl, failed, chain⟩

/-! ## A key that is bound -/

/-- The custody signer of the least secret. -/
def leastCustody : CustodySigner :=
  ⟨1, Address.text (Address.ofPublicKey (Secp256k1.publicKey 1))⟩

/-- A ledger on which the custody address has an account. -/
def ownedLedger : Ledger :=
  (Ledger.create leastCustody.address 5 1 8).setAccount leastCustody.address 7

/-- A session of an owner with an account. -/
def ownerSession : Session where
  clock := Clock.ofStart (Binary64.ofInt 1700000000)
  seeds := [List.replicate 32 1]
  generated := 0
  chain := .ledger ownedLedger
  peers := Peers.silent
  journal := []
  kept := none

theorem ofKey_leastSecret :
    CustodySigner.ofKey (.bytes (List.replicate 31 0 ++ [1])) = .ok leastCustody := by
  have least : Bytes.toNat (List.replicate 31 0 ++ [1]) = 1 := by decide
  rw [CustodySigner.ofKey, CustodySigner.ofBytes]
  simp only [least]
  rfl

theorem publicKey_freshSigner : (freshSigner ownerSession).publicKey = Message.sampleKey := by
  have seed : (freshSigner ownerSession).seed = List.replicate 32 1 := rfl
  rw [(freshSigner ownerSession).publicKey_eq, seed, Message.publicKey_sampleSigner]

/-- The digest of the request. -/
def requestDigest : Bytes :=
  [70, 228, 30, 21, 88, 82, 104, 187, 0, 90, 191, 162, 130, 94, 223, 44, 28, 164, 218, 42, 115,
    100, 27, 0, 98, 142, 199, 24, 49, 183, 215, 105]

theorem digest_sampleKey :
    TypedData.digest KeyRequest.domain KeyRequest.types
      (KeyRequest.claim (.int 7) Message.sampleKey (.int 1700003600)) = .ok requestDigest := by
  have isHash : Keccak.hash (TypedData.envelope KeyRequest.domain.words
      (KeyRequest.words 7 Message.sampleKey 1700003600)) = requestDigest := by
    decide +kernel
  rw [← isHash]
  exact KeyRequest.digest_claim Message.sampleKey (by decide) (by decide)

/-- The signature of the request. -/
def requestSignature : Secp256k1.Signature where
  r := 0x623ebcd57fc3abecda7ddf2aa58f515f3a3a0156d7f15d542a4576c4e4569b8b
  s := 0x47eed780b169359756b31229c757ed9faa29aa5771bae2d51d8c5d84c3661eb0
  odd := false

/-- The request recovers the custody address. -/
theorem recovers_requestDigest : Secp256k1.Recovers 1 requestDigest :=
  Secp256k1.recovers_of_steps requestSignature (by decide +kernel) (by decide +kernel)

/-- The least custody signer has an account, and a fresh key is bound to it: the request is
signed, and recovers the custody address. -/
theorem ownerSession_binds_key :
    ∃ outcome after metadata signature hash,
      Runs (ensure (Settings.ofEndpoints "http://chain" "01" "http://hub") leastCustody
        ⟨"http://hub", none⟩ (.int 7) leastCustody.address none) ownerSession outcome after ∧
      KeyRequest.IsRequest leastCustody 7 (freshSigner ownerSession).publicKey 1700003600
        metadata signature hash ∧
      TypedData.recover KeyRequest.domain KeyRequest.types
          (KeyRequest.claim (.int 7) (freshSigner ownerSession).publicKey (.int 1700003600))
          signature = .ok leastCustody.address ∧
      transactionsOf after.journal =
        [ownedLedger.addition (freshSigner ownerSession).publicKey metadata] ∧
      outcome = .ok ((freshSigner ownerSession).mark .active) ∧
      after.chain = .ledger (ownedLedger.binding 7 (freshSigner ownerSession).publicKey
        (ownedLedger.addition (freshSigner ownerSession).publicKey metadata)) := by
  obtain ⟨outcome, after, run⟩ := Runs.exists_run
    (ensure (Settings.ofEndpoints "http://chain" "01" "http://hub") leastCustody
      ⟨"http://hub", none⟩ (.int 7) leastCustody.address none) ownerSession
  have time : ownerSession.clock.time.truncate? = some 1700000000 := by decide +kernel
  have telling : ownerSession.clock.unix = .ok 1700000000 := by
    simp only [Clock.unix, Json.toInt, time]
  have sender : ownedLedger.address = leastCustody.address := rfl
  obtain ⟨metadata, signature, hash, request, sent, binds, -⟩ := ensure_requests_key
    ofKey_leastSecret rfl (congrArg Text.lower sender) rfl rfl rfl (by decide) telling (by decide)
    rfl run
  have isHash : hash = requestDigest := by
    have digested := digest_sampleKey
    rw [← publicKey_freshSigner] at digested
    exact Except.ok.inj (request.digested.symm.trans digested)
  have recovered := request.recovers (isHash ▸ recovers_requestDigest)
  have isOwn : ownedLedger.accountOf leastCustody.address = 7 := by
    rw [ownedLedger, Ledger.accountOf, Ledger.setAccount, Ledger.lookup_bind]
    rfl
  have unbound : ownedLedger.keyState 7 (freshSigner ownerSession).publicKey ≠ .added := by
    rintro ⟨⟩
  obtain ⟨isOk, chain, -⟩ := binds isOwn unbound
  exact ⟨outcome, after, metadata, signature, hash, run, request, recovered, sent, isOk, chain⟩

end Authorization

end Provisioning
