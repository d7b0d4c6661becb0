import Provisioning.Proofs.Run.Accepted
import Provisioning.Proofs.Run.NameClaim
import Provisioning.Proofs.Run.Settling
import Provisioning.Proofs.Run.Stages
import Provisioning.Proofs.Session.Calm

/-!
# Failures that a run documents

A run is documented to fail with the failures of its stages and with no others
(`Failure.isProvisioning`). Its first two stages keep to that if the ledger is the custody
account's and the clock tells a time: what becomes of the account
(`Account.documented_ensure`), and what becomes of the signer
(`Authorization.documented_ensure`), is a value or such a failure. Nobody has answered anything
up to then, so nothing that is answered can change it. `Provisioner.Placed` is what a run needs
for it.
-/

namespace Provisioning

open Contract Session

/-- A value, or a failure that is documented for a run. -/
abbrev Documented {α : Type} (outcome : Except Failure α) : Prop :=
  Fine (fun failure => failure.isProvisioning = true) outcome

/-- A failure is excused whatever value was due. -/
theorem Fine.failed {α β : Type} {excused : Failure → Prop} {failure : Failure}
    (fine : Fine excused (.error failure : Except Failure α)) :
    Fine excused (.error failure : Except Failure β) :=
  fine_error_iff.mpr (fine_error_iff.mp fine)

/-- The clock tells a time that fits into sixty-four bits. -/
def Clock.Telling (clock : Clock) : Prop :=
  ∃ now, clock.unix = .ok now ∧ 0 ≤ now ∧ now < 2 ^ 64

variable {before after : Session} {ledger : Ledger}

/-! ## The account -/

namespace Contract.Ledger

theorem documented_reverted {α : Type} (contract function reason hash : String) :
    Documented (.error (reverted contract function reason hash) : Except Failure α) :=
  fine_error_iff.mpr rfl

variable {now : Except Fault Int} {contract function : String} {args : List Arg} {value : Int}

/-- A call keeps to the failures of what it performs. -/
theorem documented_transact {outcome : Except Failure Receipt} {ledger' : Ledger}
    (called : ledger.transact now contract function args value = (outcome, ledger'))
    (performs : ∀ (recorded : Ledger) (hash : String),
      Documented (recorded.perform now contract function args value hash).1) :
    Documented outcome := by
  unfold transact at called
  simp only at called
  split at called
  · obtain ⟨rfl, -⟩ := Prod.mk.inj called
    exact documented_reverted _ _ _ _
  generalize performed : perform _ _ _ _ _ _ _ = result at called
  have documented : Documented result.1 := performed ▸ performs _ _
  obtain ⟨_ | _, ledger''⟩ := result
  · obtain ⟨rfl, -⟩ := Prod.mk.inj called
    exact documented.failed
  · obtain ⟨rfl, -⟩ := Prod.mk.inj called
    exact .ok _ _

/-- A registration that fails is reverted. -/
theorem documented_register (recovery : Arg) (hash : String) :
    Documented (ledger.register recovery value hash).1 := by
  unfold register
  dsimp only
  split
  · exact documented_reverted _ _ _ _
  split
  · exact documented_reverted _ _ _ _
  split
  · exact documented_reverted _ _ _ _
  · exact .ok _ _

/-- A key whose request can be read is refused, at worst. -/
theorem documented_checkKey {key metadata signature : Bytes} {signer : Arg}
    {requested deadline seconds : Int} (hash : String)
    (decoded : Abi.decode KeyRequest.metadataKinds metadata =
      .ok [.list [.int requested, signer, .bytes signature, .int deadline]]) :
    Documented (ledger.checkKey (.ok seconds) (.int 1) (.bytes key) (.int 1) (.bytes metadata)
      hash) := by
  have kinds : ¬((Arg.int 1).integer? ≠ some 1 ∨ (Arg.int 1).integer? ≠ some 1) := by
    simp [Arg.integer?]
  have isKey : (Arg.bytes key).toBytes = .ok key := rfl
  rw [checkKey, metadataParts_of_decode decoded]
  simp only [if_neg kinds, isKey, mapError_ok, Bind.bind, Except.bind]
  split
  · exact documented_reverted _ _ _ _
  split
  · exact documented_reverted _ _ _ _
  split
  · exact documented_reverted _ _ _ _
  split
  · exact documented_reverted _ _ _ _
  · exact .ok _ _

theorem documented_add {key metadata signature : Bytes} {signer : Arg}
    {requested deadline seconds : Int} (hash : String)
    (decoded : Abi.decode KeyRequest.metadataKinds metadata =
      .ok [.list [.int requested, signer, .bytes signature, .int deadline]]) :
    Documented (ledger.add (.ok seconds) [.int 1, .bytes key, .int 1, .bytes metadata] hash).1 := by
  have checked : Documented (ledger.checkKey (.ok seconds) (.int 1) (.bytes key) (.int 1)
      (.bytes metadata) hash) := documented_checkKey hash decoded
  unfold add
  dsimp only
  split
  · exact .ok _ _
  · next failed =>
    rw [failed] at checked
    exact checked.failed

end Contract.Ledger

namespace Account

variable {owner : String}

theorem ensure_calms (owner : String) (recovery : Option String) :
    Calms (ensure owner recovery) := by
  have registers (recovery : String) (price : Int) : Calms (register owner recovery price) := by
    refine .bind (.note _ _ _) fun _ => .bind (.transact _ _ _ _ _) fun receipt => ?_
    refine .bind (.decodeEvents _ _ _) fun events => ?_
    split
    · exact .throw _
    · exact .bind (.require _) fun account => .bind (.note _ _ _) fun _ => .pure _
  have looks : Calms (lookup owner) := .bind (.read _ _ _) fun account => .require _
  have buys : Calms (do
      let price ← require (← Chain.read "IdGateway" "price" []).toInt
      let balance ← Chain.balanceOf owner
      if balance = 0 then throw (.noAccountNoFunds owner price)
      if balance < price then throw (.insufficientFunds owner balance price)
      let recovery := (recovery.filter (· ≠ "")).getD owner
      register owner recovery price) := by
    refine .bind (.read _ _ _) fun price => .bind (.require _) fun price => ?_
    refine .bind (.balanceOf _) fun balance => ?_
    refine .ite (.bind (.throw _) fun _ => ?_) ?_
    · exact .ite (.bind (.throw _) fun _ => registers _ _) (registers _ _)
    · exact .ite (.bind (.throw _) fun _ => registers _ _) (registers _ _)
  refine .bind looks fun account => .ite (.bind (.note _ _ _) fun _ => .pure _) ?_
  refine .bind .get fun session => .ite (.bind (.throw _) fun _ => buys) buys

/-- The owner of the ledger's address gets an account, or a documented refusal of one. -/
theorem documented_ensure {recovery : Option String} {outcome : Except Failure Int}
    (run : Runs (ensure owner recovery) before outcome after)
    (on : before.chain = .ledger ledger) (own : Text.lower owner = Text.lower ledger.address) :
    Documented outcome := by
  cases ensure_course run on with
  | known registered talk => exact .ok _ _
  | foreign unregistered other same => exact absurd own other
  | penniless unregistered own empty same | short unregistered own held less same =>
    exact fine_error_iff.mpr rfl
  | due due registering =>
    obtain ⟨noted, talk, run⟩ := register_sends registering
    have on : noted.chain = .ledger ledger := talk.chain.trans on
    rcases run.bind_inv with ⟨receipt, sent, sending, rest⟩ | ⟨failure, sending, rfl⟩
    · obtain ⟨ledger', transacted, rfl⟩ := Chain.transact_inv sending on
      cases transacted with
      | keyBound isContract => exact absurd isContract (by decide)
      | registered _ _ _ _ address keys accounts logs =>
        obtain ⟨-, isOutcome⟩ := numberIn_inv rest logs
        rw [isOutcome]
        split
        · exact .ok _ _
        · exact fine_error_iff.mpr rfl
    · generalize called : ledger.transact noted.clock.unix "IdGateway" "register"
        [.str (recoverer owner recovery)] ledger.price = result
      obtain ⟨isResult, -⟩ := Chain.transact_called sending on (called.trans (Prod.eta result).symm)
      have documented : Documented result.1 :=
        Ledger.documented_transact (called.trans (Prod.eta result).symm) fun recorded hash =>
          recorded.documented_register _ hash
      rw [← isResult] at documented
      exact documented.failed

end Account

/-! ## The signer -/

namespace Authorization

variable {settings : Settings} {custody : CustodySigner} {hub : Hub} {owner : String}
variable {account : Json} {fid : Int} {outcome : Except Failure DelegatedSigner}

/-- Nobody is asked, and at most the time passes for which a fresh key is left alone. -/
structure Waits (seconds : Binary64) (before after : Session) : Prop where
  clock : after.clock = before.clock ∨ after.clock = before.clock.advance seconds
  peers : after.peers = before.peers
  journal : Grows Happening.IsUnanswered before after

theorem Waits.refl (seconds : Binary64) (session : Session) : Waits seconds session session :=
  ⟨.inl rfl, rfl, .refl _ _⟩

theorem Waits.of_calm {middle : Session} {seconds : Binary64} (calm : Calm before middle)
    (waits : Waits seconds middle after) : Waits seconds before after :=
  ⟨calm.clock ▸ waits.clock, waits.peers.trans calm.peers, calm.journal.trans waits.journal⟩

theorem settle_waits (patient : settings.pollsVisibility = false) {key : Bytes}
    {outcome : Except Failure Unit}
    (run : Runs (settle settings hub account key) before outcome after) :
    Waits settings.settleSeconds before after := by
  have unseen : isVisible settings hub account key = pure false := by
    simp [isVisible, patient]
  rw [settle, unseen] at run
  have run := run.pure_bind
  simp only [Bool.false_eq_true, if_false] at run
  split at run
  · obtain ⟨-, rfl⟩ := (Runs.record_bind run.note_bind).modify_inv
    refine ⟨.inr rfl, rfl, [_, _], List.append_assoc _ _ _, ?_⟩
    simp [Happening.IsUnanswered]
  · obtain ⟨-, rfl⟩ := run.pure_inv
    exact .refl _ _

theorem adopt_calms (account : Json) (signer : DelegatedSigner) :
    Calms (adopt settings account signer) := by
  have takes : Calms (do
      note .debug .authorization s!"Using caller-supplied signer {signer.keyText}"
      return signer.mark .active) := .bind (.note _ _ _) fun _ => .pure _
  have asks : Calms (isAuthorized account signer.publicKey) := by
    refine .bind (.read _ _ _) fun value => ?_
    split
    · exact .bind (.require _) fun state => .pure _
    · exact .throw _
  exact .ite (.bind asks fun known => .ite (.bind (.throw _) fun _ => takes) takes) takes

/-- A key that is handed in is taken, or refused with a documented failure. -/
theorem documented_adopt {signer : DelegatedSigner}
    (run : Runs (adopt settings (.int fid) signer) before outcome after)
    (on : before.chain = .ledger ledger) : Documented outcome := by
  unfold adopt at run
  split at run
  · rcases run.bind_inv with ⟨authorized, middle, looked, rest⟩ | ⟨failure, looked, -⟩
    · rcases rest.guard_inv with ⟨-, rfl, -⟩ | ⟨-, taking⟩
      · exact fine_error_iff.mpr rfl
      · obtain ⟨rfl, -⟩ := taking.note_bind.pure_inv
        exact .ok _ _
    · cases (isAuthorized_inv looked on).1
  · obtain ⟨rfl, -⟩ := run.note_bind.pure_inv
    exact .ok _ _

theorem documented_refusalOf {key : Bytes} {failure : Failure}
    (documented : failure.isProvisioning = true) :
    (refusalOf account key failure).isProvisioning = true := by
  cases failure <;> first | rfl | exact documented

/-- The request for a fresh key is made and sent in peace, and what comes behind it is the wait. -/
theorem authorize_waits {metadata : Bytes} {now : Int}
    (run : Runs (authorize settings custody hub account owner) before outcome after)
    (on : before.chain = .ledger ledger) (owned : Text.lower owner = Text.lower custody.address)
    (patient : settings.pollsVisibility = false) (telling : before.clock.unix = .ok now)
    (signs : Signs custody account (freshSigner before).publicKey now metadata) :
    Waits settings.settleSeconds before after := by
  obtain ⟨ready, talk, clock, submitting⟩ := authorize_opens run owned telling signs
  generalize called : ledger.transact ready.clock.unix "KeyGateway" "add"
    (keyArguments (freshSigner before).publicKey metadata) 0 = result
  obtain ⟨result, ledger'⟩ := result
  have sends : Calm before (ready.sending ledger' (Chain.happeningsOf ledger "KeyGateway" "add"
      (keyArguments (freshSigner before).publicKey metadata) 0 result)) :=
    (Calm.of_talk talk on clock).trans (.called ready ledger ledger' _ _ _ _ _)
  rcases submitting.bind_inv with ⟨receipt, sent, submitted, rest⟩ | ⟨failure, submitted, -⟩
  · obtain ⟨-, rfl⟩ := submitKey_called submitted (talk.chain.trans on) called
    rcases rest.note_bind.bind_inv with ⟨_, settled, settles, marks⟩ | ⟨failure, settles, -⟩
    · obtain ⟨-, rfl⟩ := marks.pure_inv
      exact .of_calm (sends.trans (.noted rfl _ _ _)) (settle_waits patient settles)
    · cases settle_ok patient settles
  · obtain ⟨-, rfl⟩ := submitKey_called submitted (talk.chain.trans on) called
    exact .of_calm sends (.refl _ _)

/-- A fresh key is bound, or refused with a documented failure. -/
theorem documented_authorize {material : Arg}
    (run : Runs (authorize settings custody hub (.int fid) owner) before outcome after)
    (made : CustodySigner.ofKey material = .ok custody)
    (on : before.chain = .ledger ledger) (owned : Text.lower owner = Text.lower custody.address)
    (patient : settings.pollsVisibility = false) (isAccount : 0 ≤ fid ∧ fid < 2 ^ 256)
    (telling : before.clock.Telling) :
    Documented outcome ∧ Waits settings.settleSeconds before after := by
  obtain ⟨now, telling, isNow⟩ := telling
  have isDeadline : 0 ≤ now + requestLifetime ∧ now + requestLifetime < 2 ^ 256 := by
    unfold requestLifetime
    omega
  obtain ⟨metadata, signature, hash, signed, encoded, request⟩ := KeyRequest.exists_request made
    (freshSigner before).publicKey isAccount isDeadline
  have signs : Signs custody (.int fid) (freshSigner before).publicKey now metadata :=
    ⟨signature, signed, encoded⟩
  refine ⟨?_, authorize_waits run on owned patient telling signs⟩
  generalize called : ledger.transact (.ok now) "KeyGateway" "add"
    (keyArguments (freshSigner before).publicKey metadata) 0 = result
  obtain ⟨result, ledger'⟩ := result
  have documented : Documented result := Ledger.documented_transact called fun recorded hash =>
    recorded.documented_add hash request.decoded
  obtain ⟨-, -, isOutcome⟩ := authorize_called run on owned patient telling signs called
  rw [isOutcome]
  cases result with
  | ok receipt => exact .ok _ _
  | error reason => exact fine_error_iff.mpr (documented_refusalOf (documented reason rfl))

/-- An owner gets a signer, or a documented refusal of one. -/
theorem documented_ensure {material : Arg} {key : Option SigningKey}
    (run : Runs (ensure settings custody hub (.int fid) custody.address key) before outcome after)
    (made : CustodySigner.ofKey material = .ok custody) (on : before.chain = .ledger ledger)
    (valid : ∀ handed ∈ key, ∃ signer, handed.toSigner = .ok signer)
    (patient : settings.pollsVisibility = false) (isAccount : 0 ≤ fid ∧ fid < 2 ^ 256)
    (telling : before.clock.Telling) :
    Documented outcome ∧ Waits settings.settleSeconds before after := by
  cases key with
  | none => exact documented_authorize run made on rfl patient isAccount telling
  | some handed =>
    obtain ⟨signer, isSigner⟩ := valid handed rfl
    rcases run.require_bind with ⟨taken, -, adopting⟩ | ⟨fault, isFault, -⟩
    · exact ⟨documented_adopt adopting on, .of_calm (adopt_calms _ _ adopting on) (.refl _ _)⟩
    · cases isFault.symm.trans isSigner

end Authorization

/-! ## The first two stages -/

namespace Provisioner

variable {provisioner : Provisioner}

theorem opening_calms (provisioner : Provisioner) : Calms provisioner.opening :=
  .bind (.note _ _ _) fun _ => Account.ensure_calms _ _

theorem documented_opening {outcome : Except Failure Int}
    (opens : Runs provisioner.opening before outcome after) (on : before.chain = .ledger ledger)
    (own : Text.lower provisioner.custody.address = Text.lower ledger.address) :
    Documented outcome :=
  Account.documented_ensure opens.note_bind on own

/-- What runs are documented for: the ledger is the custody account's, its accounts have
numbers of 256 bits, and the clock tells a time, also behind the wait for a fresh key. -/
structure Placed (provisioner : Provisioner) (ledger : Ledger) (before : Session) : Prop where
  made : ∃ material, CustodySigner.ofKey material = .ok provisioner.custody
  patient : provisioner.settings.pollsVisibility = false
  on : before.chain = .ledger ledger
  own : Text.lower provisioner.custody.address = Text.lower ledger.address
  account : 0 ≤ ledger.accountOf provisioner.custody.address ∧
    ledger.accountOf provisioner.custody.address < 2 ^ 256
  next : 1 ≤ ledger.nextAccount ∧ ledger.nextAccount < 2 ^ 256
  telling : before.clock.Telling
  late : (before.clock.advance provisioner.settings.settleSeconds).Telling

end Provisioner

end Provisioning
