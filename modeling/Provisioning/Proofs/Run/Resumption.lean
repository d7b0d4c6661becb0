import Provisioning.Proofs.Run.Stages

/-!
# Runs that take up where others stopped

Runs follow each other on one ledger. Each finds the ledger as the one before it left it,
and is handed the private key of the latest signer that was kept; its clock, its seeds, its
settings and what its peers answer are its own. Over a whole series
(`Attempt.series_works_once`) at most one account is registered and at most one key is
bound, whatever the runs end in.

Both counts are bounded by a potential that only grows: an account that the ledger has, and
a signer that was kept, each stand for the transaction that may have brought them
(`Advanced`, `Attempt.run_advances`). Without polling a confirmed key is always kept.
-/

namespace Provisioning

open Session Contract

/-! ## Series -/

/-- A run to come: what it works with, and what it finds beside the ledger. -/
structure Attempt where
  provisioner : Provisioner
  text : Json
  clock : Clock
  seeds : List Bytes
  generated : Nat
  peers : Peers

/-- What runs leave to the next one. -/
structure Progress where
  ledger : Ledger
  /-- The latest signer that a run has kept. -/
  saved : Option DelegatedSigner

namespace Progress

/-- The private key of the saved signer. -/
def key (progress : Progress) : Option SigningKey :=
  progress.saved.map fun signer => .material (.bytes signer.seed)

end Progress

/-- A run of a series: what it was to do, what it found, and what it left. -/
structure Trial where
  attempt : Attempt
  before : Progress
  after : Session

namespace Trial

/-- What is left after the run. -/
def next (trial : Trial) : Progress where
  ledger :=
    match trial.after.chain with
    | .ledger ledger => ledger
    | .node _ => trial.before.ledger
  saved := trial.after.kept.or trial.before.saved

end Trial

namespace Attempt

/-- A fresh session on the ledger that was left. -/
def start (attempt : Attempt) (progress : Progress) : Session where
  clock := attempt.clock
  seeds := attempt.seeds
  generated := attempt.generated
  chain := .ledger progress.ledger
  peers := attempt.peers
  journal := []
  kept := none

/-- The run of an attempt. -/
def trial (attempt : Attempt) (progress : Progress) : Trial where
  attempt := attempt
  before := progress
  after := (StateT.run (ExceptT.run (attempt.provisioner.run progress.key attempt.text))
    (attempt.start progress)).2

/-- The runs of attempts, one after the other. -/
def series : List Attempt → Progress → List Trial
  | [], _ => []
  | attempt :: rest, progress =>
    attempt.trial progress :: series rest (attempt.trial progress).next

/-- The owner is who the ledger sends from, nobody waits for the hub, and the seeds are
private keys. -/
structure Fits (attempt : Attempt) (address : String) : Prop where
  own : Text.lower attempt.provisioner.custody.address = Text.lower address
  patient : attempt.provisioner.settings.pollsVisibility = false
  prepared : ∀ seed ∈ attempt.seeds, seed.length = 32

end Attempt

namespace Trial

/-- The run gets past its first stage, with the number of an account. -/
def Opens (trial : Trial) (number : Int) : Prop :=
  ∃ opened, Runs trial.attempt.provisioner.opening (trial.attempt.start trial.before)
    (.ok number) opened

/-- How many registrations were confirmed in the run. -/
def registrations (trial : Trial) : Nat :=
  confirmations "IdGateway" "register" trial.after.journal

/-- How many keys were confirmed in the run. -/
def bindings (trial : Trial) : Nat :=
  confirmations "KeyGateway" "add" trial.after.journal

def owner (trial : Trial) : String := trial.attempt.provisioner.custody.address

end Trial

/-! ## What a stretch of a run leaves -/

/-- A stretch of a run takes one ledger to another and binds so many keys. Only an address
without an account gets one, and it keeps the one that it has. -/
structure Advanced (ledger ledger' : Ledger) (bound : Nat) (before after : Session) : Prop where
  chain : after.chain = .ledger ledger'
  address : ledger'.address = ledger.address
  seeds : after.seeds ⊆ before.seeds
  /-- The next number remains fit for an account while there is none. -/
  positive : (ledger.ownAccount = 0 → 1 ≤ ledger.nextAccount) →
    ledger'.ownAccount = 0 → 1 ≤ ledger'.nextAccount
  lasting : ledger.ownAccount ≠ 0 → ledger'.ownAccount = ledger.ownAccount
  registrations : (ledger.ownAccount = 0 → 1 ≤ ledger.nextAccount) →
    confirmations "IdGateway" "register" after.journal + ledger.owned ≤
      confirmations "IdGateway" "register" before.journal + ledger'.owned
  bindings : confirmations "KeyGateway" "add" after.journal =
    confirmations "KeyGateway" "add" before.journal + bound

namespace Advanced

variable {ledger middle ledger' : Ledger} {bound bound' : Nat} {before between after : Session}

theorem trans (first : Advanced ledger middle bound before between)
    (rest : Advanced middle ledger' bound' between after) :
    Advanced ledger ledger' (bound + bound') before after where
  chain := rest.chain
  address := rest.address.trans first.address
  seeds := List.Subset.trans rest.seeds first.seeds
  positive fit := rest.positive (first.positive fit)
  lasting registered := by
    have kept := first.lasting registered
    rw [← kept] at registered ⊢
    exact rest.lasting registered
  registrations fit := by
    have early := first.registrations fit
    have late := rest.registrations (first.positive fit)
    omega
  bindings := by rw [rest.bindings, first.bindings, Nat.add_assoc]

theorem of_talk {fits : Http.Request → Prop} (talk : Extends fits before after)
    (on : before.chain = .ledger ledger) : Advanced ledger ledger 0 before after where
  chain := talk.chain.trans on
  address := rfl
  seeds := talk.seeds
  positive := id
  lasting _ := rfl
  registrations _ := Nat.le_of_eq (congrArg (· + ledger.owned) (talk.confirmations _ _))
  bindings := talk.confirmations _ _

theorem of_reverts (reverts : Reverts ledger' before after)
    (same : Ledger.SameRegistries ledger ledger') : Advanced ledger ledger' 0 before after := by
  have account := Ledger.ownAccount_congr same.address same.accounts
  have owned := Ledger.owned_congr account
  refine ⟨reverts.chain, same.address, reverts.seeds, ?_, fun _ => account, ?_, ?_⟩
  · rw [account, same.nextAccount]
    exact id
  · intro _
    have same := reverts.confirmations "IdGateway" "register"
    omega
  · exact reverts.confirmations _ _

/-- A confirmed registration gives the address its first account. -/
theorem of_registration {fits : Http.Request → Prop}
    (confirms : Confirms fits "IdGateway" "register" ledger' before after)
    (address : ledger'.address = ledger.address) (unregistered : ledger.ownAccount = 0)
    (account : ledger'.ownAccount = ledger.nextAccount) :
    Advanced ledger ledger' 0 before after := by
  have none : ledger.owned = 0 := if_pos unregistered
  refine ⟨confirms.chain, address, confirms.seeds, ?_,
    fun registered => absurd unregistered registered, ?_, ?_⟩
  · intro fit none
    have := fit unregistered
    omega
  · intro fit
    have := fit unregistered
    have one : ledger'.owned = 1 := if_neg (by omega)
    have counted := confirms.confirmations "IdGateway" "register"
    rw [if_pos ⟨rfl, rfl⟩] at counted
    omega
  · exact confirms.confirmations _ _

/-- A confirmed key leaves the accounts as they are. -/
theorem of_binding {fits : Http.Request → Prop}
    (confirms : Confirms fits "KeyGateway" "add" ledger' before after)
    (address : ledger'.address = ledger.address) (accounts : ledger'.accounts = ledger.accounts)
    (registered : ledger.ownAccount ≠ 0) : Advanced ledger ledger' 1 before after := by
  have account := Ledger.ownAccount_congr address accounts
  have owned := Ledger.owned_congr account
  refine ⟨confirms.chain, address, confirms.seeds, ?_, fun _ => account, ?_, ?_⟩
  · rw [account]
    exact fun _ none => absurd none registered
  · intro _
    have same := confirms.confirmations "IdGateway" "register"
    rw [if_neg (by decide)] at same
    omega
  · exact confirms.confirmations _ _

end Advanced

/-! ## What a stage leaves -/

namespace Account

variable {before after : Session} {ledger : Ledger} {owner : String}
variable {outcome : Except Failure Int}

theorem Ensured.advances (ensured : Ensured ledger owner before after outcome)
    (on : before.chain = .ledger ledger) (own : Text.lower owner = Text.lower ledger.address) :
    ∃ ledger', Advanced ledger ledger' 0 before after := by
  cases ensured with
  | known registered talk => exact ⟨ledger, .of_talk talk on⟩
  | refused unregistered talk => exact ⟨ledger, .of_talk talk on⟩
  | reverted unregistered same reverts => exact ⟨_, .of_reverts reverts same⟩
  | registered unregistered address keys account confirms number =>
    rw [Ledger.accountOf_eq_ownAccount own] at unregistered
    rw [Ledger.accountOf_eq_ownAccount (own.trans (congrArg Text.lower address.symm))] at account
    exact ⟨_, .of_registration confirms address unregistered account⟩

theorem Ensured.kept (ensured : Ensured ledger owner before after outcome) :
    after.kept = before.kept := by
  cases ensured with
  | known registered talk => exact talk.kept
  | refused unregistered talk => exact talk.kept
  | reverted unregistered same reverts => exact reverts.kept
  | registered unregistered address keys account confirms number => exact confirms.kept

/-- An owner with an account sends nothing. -/
theorem Ensured.talk (ensured : Ensured ledger owner before after outcome)
    (registered : ledger.accountOf owner ≠ 0) : Extends noRequest before after := by
  cases ensured with
  | known _ talk => exact talk
  | refused unregistered => exact absurd unregistered registered
  | reverted unregistered => exact absurd unregistered registered
  | registered unregistered => exact absurd unregistered registered

end Account

namespace Authorization

variable {settings : Settings} {hub : Hub} {account : Json} {before after : Session}
variable {ledger : Ledger} {outcome : Except Failure DelegatedSigner}

/-- Without polling, a signer is had once its key is bound. -/
theorem Authorized.advances
    (authorized : Authorized settings hub account ledger before after outcome)
    (on : before.chain = .ledger ledger) (patient : settings.pollsVisibility = false) :
    ∃ ledger' bound, Advanced ledger ledger' bound before after ∧
      (bound = 0 ∨ bound = 1 ∧ ∃ taken, outcome = .ok taken) := by
  cases authorized with
  | refused talk => exact ⟨ledger, 0, .of_talk talk on, .inl rfl⟩
  | reverted same reverts => exact ⟨_, 0, .of_reverts reverts same, .inl rfl⟩
  | bound registered address accounts added talk noted settles =>
    have confirms := confirms_of_settles talk noted settles
    cases settle_ok patient settles
    exact ⟨_, 1, .of_binding confirms address accounts registered, .inr ⟨rfl, _, rfl⟩⟩

theorem Authorized.kept
    (authorized : Authorized settings hub account ledger before after outcome) :
    after.kept = before.kept := by
  cases authorized with
  | refused talk => exact talk.kept
  | reverted same reverts => exact reverts.kept
  | bound registered address accounts added talk noted settles =>
    exact (confirms_of_settles talk noted settles).kept

/-- A signer that is had is the fresh one. -/
theorem Authorized.taken {taken : DelegatedSigner}
    (authorized : Authorized settings hub account ledger before after (.ok taken)) :
    taken = (freshSigner before).mark .active := by
  generalize isOk : Except.ok taken = outcome at authorized
  cases authorized with
  | refused talk => cases isOk
  | reverted same reverts => cases isOk
  | @bound _ _ _ _ _ settled =>
    cases settled with
    | error failure => cases isOk
    | ok => exact Except.ok.inj isOk

theorem length_nextSeed {session : Session}
    (prepared : ∀ seed ∈ session.seeds, seed.length = 32) : session.nextSeed.1.length = 32 := by
  unfold nextSeed
  split
  · next seed rest isSeeds => exact prepared seed (isSeeds ▸ List.mem_cons_self)
  · exact List.length_replicate

/-- A private key makes the signer that it is of. -/
theorem toSigner_seed {seed : Bytes} (prepared : seed.length = 32) :
    SigningKey.toSigner (.material (.bytes seed)) = .ok (.ofSeed seed .unregistered) := by
  have isSeed : DelegatedSigner.seedOf (.bytes seed) = .ok seed := by
    simp [DelegatedSigner.seedOf, DelegatedSigner.seedOf.ofLength, prepared]
  rw [SigningKey.toSigner, DelegatedSigner.ofKey, isSeed]
  rfl

end Authorization

namespace Authorization

variable {settings : Settings} {custody : CustodySigner} {hub : Hub} {number : Int}
variable {owner : String} {key : Option SigningKey} {before after : Session} {ledger : Ledger}

theorem ensure_advances {outcome : Except Failure DelegatedSigner}
    (run : Runs (ensure settings custody hub (.int number) owner key) before outcome after)
    (on : before.chain = .ledger ledger) (patient : settings.pollsVisibility = false) :
    after.kept = before.kept ∧ ∃ ledger' bound, Advanced ledger ledger' bound before after ∧
      (bound = 0 ∨ bound = 1 ∧ key = none ∧ ∃ taken, outcome = .ok taken) := by
  cases key with
  | some key =>
    obtain ⟨talk, -⟩ := ensure_some_inv run on
    exact ⟨talk.kept, ledger, 0, .of_talk talk on, .inl rfl⟩
  | none =>
    have authorized := ensure_none_inv run on
    obtain ⟨ledger', bound, advanced, isBound⟩ := authorized.advances on patient
    refine ⟨authorized.kept, ledger', bound, advanced, ?_⟩
    rcases isBound with unbound | ⟨isOne, taken⟩
    · exact .inl unbound
    · exact .inr ⟨isOne, rfl, taken⟩

/-- Who is handed a key sends nothing. -/
theorem ensure_talk {outcome : Except Failure DelegatedSigner}
    (run : Runs (ensure settings custody hub (.int number) owner key) before outcome after)
    (on : before.chain = .ledger ledger) (handed : key ≠ none) : Extends noRequest before after := by
  cases key with
  | some key => exact (ensure_some_inv run on).1
  | none => exact absurd rfl handed

/-- Who is handed the private key of a signer takes its public key. -/
theorem ensure_taken {saved : Option DelegatedSigner} {taken : DelegatedSigner}
    (run : Runs (ensure settings custody hub (.int number) owner
      (saved.map fun signer => .material (.bytes signer.seed))) before (.ok taken) after)
    (on : before.chain = .ledger ledger)
    (prepared : ∀ seed ∈ before.seeds, seed.length = 32)
    (fit : ∀ signer, saved = some signer → signer.seed.length = 32) :
    taken.seed.length = 32 ∧ ∀ signer, saved = some signer → taken.publicKey = signer.publicKey := by
  cases saved with
  | some signer =>
    have isPrivate := fit signer rfl
    obtain ⟨-, takes⟩ := ensure_some_inv run on
    obtain ⟨made, isMade, rfl, -⟩ := takes taken rfl
    rw [toSigner_seed isPrivate] at isMade
    cases isMade
    refine ⟨isPrivate, ?_⟩
    intro other isSaved
    cases isSaved
    exact signer.publicKey_eq.symm
  | none =>
    rw [(ensure_none_inv run on).taken]
    exact ⟨length_nextSeed prepared, nofun⟩

end Authorization

/-! ## What a run leaves -/

theorem Extends.not_sent {fits : Http.Request → Prop} {before after : Session}
    (talk : Extends fits before after) :
    Grows (fun happening => ∀ transaction, happening ≠ .sent transaction) before after := by
  refine talk.journal.mono ?_
  intro happening isTalk transaction isSent
  rw [isSent] at isTalk
  exact isTalk

namespace Progress

/-- How many signers are saved. -/
def held (progress : Progress) : Nat := if progress.saved.isSome then 1 else 0

theorem held_le_one (progress : Progress) : progress.held ≤ 1 := by
  unfold held
  split <;> omega

theorem held_of_saved {progress : Progress} {signer : DelegatedSigner}
    (isSaved : progress.saved = some signer) : progress.held = 1 := by
  rw [held, isSaved]
  rfl

/-- What runs can go on from: an account can be registered if there is none, and the key
of a saved signer is a private key. -/
structure Fit (progress : Progress) : Prop where
  positive : progress.ledger.ownAccount = 0 → 1 ≤ progress.ledger.nextAccount
  prepared : ∀ signer, progress.saved = some signer → signer.seed.length = 32

end Progress

namespace Trial

theorem saved_next_of_kept {trial : Trial} {signer : DelegatedSigner}
    (isKept : trial.after.kept = some signer) : trial.next.saved = some signer := by
  rw [next, isKept]
  rfl

theorem saved_next_of_unkept {trial : Trial} (unkept : trial.after.kept = none) :
    trial.next.saved = trial.before.saved := by
  rw [next, unkept]
  rfl

/-- What a run of a series does to what it found. -/
structure Sound (trial : Trial) : Prop where
  address : trial.next.ledger.address = trial.before.ledger.address
  fit : trial.next.Fit
  lasting : trial.before.ledger.ownAccount ≠ 0 →
    trial.next.ledger.ownAccount = trial.before.ledger.ownAccount
  registrations : trial.registrations + trial.before.ledger.owned ≤ trial.next.ledger.owned
  bindings : trial.bindings + trial.before.held ≤ trial.next.held
  opens : ∀ number, trial.Opens number → number ≠ 0 ∧ trial.next.ledger.ownAccount = number
  keeps : ∀ signer, trial.after.kept = some signer →
    ∀ saved, trial.before.saved = some saved → signer.publicKey = saved.publicKey
  silent : trial.before.key ≠ none → trial.before.ledger.ownAccount ≠ 0 →
    ∀ transaction, .sent transaction ∉ trial.after.journal

end Trial

namespace Attempt

variable {attempt : Attempt} {progress : Progress} {ledger' : Ledger} {bound : Nat}

/-- A run is sound if it advances, keeps the saved signer's public key, and keeps some
signer if it binds a key, which it does only if none was saved. -/
theorem trial_sound_of (fit : progress.Fit)
    (advanced : Advanced progress.ledger ledger' bound (attempt.start progress)
      (attempt.trial progress).after)
    (isBound : bound = 0 ∨ bound = 1 ∧ progress.saved = none ∧
      (attempt.trial progress).after.kept ≠ none)
    (keeps : ∀ signer, (attempt.trial progress).after.kept = some signer →
      signer.seed.length = 32 ∧
        ∀ saved, progress.saved = some saved → signer.publicKey = saved.publicKey)
    (opens : ∀ number, (attempt.trial progress).Opens number →
      number ≠ 0 ∧ ledger'.ownAccount = number)
    (silent : progress.key ≠ none → progress.ledger.ownAccount ≠ 0 →
      Grows (fun happening => ∀ transaction, happening ≠ .sent transaction)
        (attempt.start progress) (attempt.trial progress).after) :
    (attempt.trial progress).Sound := by
  have isLedger : (attempt.trial progress).next.ledger = ledger' := by
    rw [Trial.next, advanced.chain]
  refine ⟨isLedger ▸ advanced.address, ⟨isLedger ▸ advanced.positive fit.positive, ?_⟩,
    isLedger ▸ advanced.lasting, ?_, ?_, isLedger ▸ opens,
    fun signer isKept => (keeps signer isKept).2, ?_⟩
  · intro signer isSaved
    cases isKept : (attempt.trial progress).after.kept with
    | some kept =>
      have same := (Trial.saved_next_of_kept isKept).symm.trans isSaved
      exact (keeps signer (isKept.trans same)).1
    | none => exact fit.prepared signer ((Trial.saved_next_of_unkept isKept).symm.trans isSaved)
  · have counted := advanced.registrations fit.positive
    have none : confirmations "IdGateway" "register" (attempt.start progress).journal = 0 := rfl
    rw [none, Nat.zero_add] at counted
    rw [isLedger]
    exact counted
  · have counted : (attempt.trial progress).bindings = bound :=
      advanced.bindings.trans (Nat.zero_add bound)
    rw [counted]
    cases isKept : (attempt.trial progress).after.kept with
    | some kept =>
      rw [Progress.held_of_saved (Trial.saved_next_of_kept isKept)]
      rcases isBound with rfl | ⟨rfl, unsaved, -⟩
      · rw [Nat.zero_add]
        exact progress.held_le_one
      · have unheld : progress.held = 0 := by rw [Progress.held, unsaved]; rfl
        exact Nat.le_of_eq (congrArg (1 + ·) unheld)
    | none =>
      rcases isBound with rfl | ⟨-, -, isSome⟩
      · have same : (attempt.trial progress).next.held = progress.held :=
          congrArg (fun saved : Option DelegatedSigner => if saved.isSome then 1 else 0)
            (Trial.saved_next_of_unkept isKept)
        rw [same]
        exact Nat.le_of_eq (Nat.zero_add progress.held)
      · exact absurd isKept isSome
  · intro handed registered transaction member
    obtain ⟨new, journal, none⟩ := silent handed registered
    rw [journal] at member
    exact none _ member transaction rfl

theorem Fits.registered (fits : attempt.Fits progress.ledger.address)
    (own : progress.ledger.ownAccount ≠ 0) :
    progress.ledger.accountOf attempt.provisioner.custody.address ≠ 0 := by
  rw [Ledger.accountOf_eq_ownAccount fits.own]
  exact own

/-- The number that a run opens with is the account that the address then has. -/
theorem opens_inv {number : Int} {opened : Session}
    (fits : attempt.Fits progress.ledger.address) (fit : progress.Fit)
    (opens : Runs attempt.provisioner.opening (attempt.start progress) (.ok number) opened)
    (on : opened.chain = .ledger ledger') :
    number ≠ 0 ∧ ledger'.ownAccount = number ∧
      ∀ other, (attempt.trial progress).Opens other → other = number := by
  have ensured := Provisioner.opening_inv opens rfl fits.own
  have positive := fit.positive
  rw [← Ledger.accountOf_eq_ownAccount fits.own] at positive
  obtain ⟨nonzero, ledger, isLedger, address, isNumber⟩ := ensured.ok_inv rfl positive
  cases isLedger.symm.trans on
  rw [Ledger.accountOf_eq_ownAccount (fits.own.trans (congrArg Text.lower address.symm))]
    at isNumber
  refine ⟨nonzero, isNumber, ?_⟩
  intro other opensOther
  obtain ⟨opened', opens'⟩ := opensOther
  exact Except.ok.inj (opens'.unique opens).1

section Stages

variable {number : Int} {taken : DelegatedSigner} {opened signed : Session}

/-- A run that does not get past its account leaves no signer. -/
theorem trial_sound_of_account {failure : Failure} (fits : attempt.Fits progress.ledger.address)
    (fit : progress.Fit)
    (opens : Runs attempt.provisioner.opening (attempt.start progress) (.error failure)
      (attempt.trial progress).after) : (attempt.trial progress).Sound := by
  have ensured := Provisioner.opening_inv opens rfl fits.own
  obtain ⟨ledger', advanced⟩ := ensured.advances rfl fits.own
  refine trial_sound_of fit advanced (.inl rfl) ?_ ?_ ?_
  · intro signer isKept
    cases ensured.kept.symm.trans isKept
  · intro number opensOther
    obtain ⟨opened, opens'⟩ := opensOther
    cases (opens'.unique opens).1
  · intro _ own
    exact (ensured.talk (fits.registered own)).not_sent

/-- A run that does not get past its signer has bound no key. -/
theorem trial_sound_of_signer {failure : Failure} (fits : attempt.Fits progress.ledger.address)
    (fit : progress.Fit)
    (opens : Runs attempt.provisioner.opening (attempt.start progress) (.ok number) opened)
    (signer : Runs (Authorization.ensure attempt.provisioner.settings attempt.provisioner.custody
      attempt.provisioner.hub (.int number) attempt.provisioner.custody.address progress.key)
      opened (.error failure) (attempt.trial progress).after) :
    (attempt.trial progress).Sound := by
  have ensured := Provisioner.opening_inv opens rfl fits.own
  obtain ⟨middle, first⟩ := ensured.advances rfl fits.own
  obtain ⟨isKept, ledger', bound, rest, isBound⟩ :=
    Authorization.ensure_advances signer first.chain fits.patient
  obtain ⟨nonzero, isNumber, only⟩ := opens_inv fits fit opens first.chain
  have unbound : 0 + bound = 0 := by
    rcases isBound with unbound | ⟨-, -, taken, isOk⟩
    · rw [unbound]
    · cases isOk
  refine trial_sound_of fit (first.trans rest) (.inl unbound) ?_ ?_ ?_
  · intro signer isSome
    cases (isKept.trans ensured.kept).symm.trans isSome
  · intro other opensOther
    rw [only other opensOther, rest.lasting (isNumber ▸ nonzero)]
    exact ⟨nonzero, isNumber⟩
  · intro handed own
    have talk := Authorization.ensure_talk signer first.chain handed
    exact ((ensured.talk (fits.registered own)).trans talk).not_sent

/-- A run that gets past its signer keeps it, and from then on only talks. -/
theorem trial_sound_of_late {fitsLate : Http.Request → Prop}
    (fits : attempt.Fits progress.ledger.address) (fit : progress.Fit)
    (opens : Runs attempt.provisioner.opening (attempt.start progress) (.ok number) opened)
    (signer : Runs (Authorization.ensure attempt.provisioner.settings attempt.provisioner.custody
      attempt.provisioner.hub (.int number) attempt.provisioner.custody.address progress.key)
      opened (.ok taken) signed)
    (late : Extends fitsLate { signed with kept := some taken } (attempt.trial progress).after) :
    (attempt.trial progress).Sound := by
  have ensured := Provisioner.opening_inv opens rfl fits.own
  obtain ⟨middle, first⟩ := ensured.advances rfl fits.own
  obtain ⟨-, ledger', bound, rest, isBound⟩ :=
    Authorization.ensure_advances signer first.chain fits.patient
  obtain ⟨nonzero, isNumber, only⟩ := opens_inv fits fit opens first.chain
  have last : Advanced ledger' ledger' 0 signed (attempt.trial progress).after :=
    have talk := Advanced.of_talk late rest.chain
    ⟨talk.chain, talk.address, talk.seeds, talk.positive, talk.lasting, talk.registrations,
      talk.bindings⟩
  have isKept : (attempt.trial progress).after.kept = some taken := late.kept
  refine trial_sound_of fit ((first.trans rest).trans last) ?_ ?_ ?_ ?_
  · rcases isBound with rfl | ⟨rfl, isNone, -⟩
    · exact .inl rfl
    · refine .inr ⟨rfl, Option.map_eq_none_iff.mp isNone, ?_⟩
      rw [isKept]
      exact Option.some_ne_none taken
  · intro kept isSome
    cases isKept.symm.trans isSome
    have prepared (seed : Bytes) (member : seed ∈ opened.seeds) : seed.length = 32 :=
      fits.prepared seed (first.seeds member)
    exact Authorization.ensure_taken signer first.chain prepared fit.prepared
  · intro other opensOther
    rw [only other opensOther, rest.lasting (isNumber ▸ nonzero)]
    exact ⟨nonzero, isNumber⟩
  · intro handed own
    have talk := Authorization.ensure_talk signer first.chain handed
    exact ((ensured.talk (fits.registered own)).trans talk).not_sent.trans late.not_sent

end Stages

theorem trial_sound (fits : attempt.Fits progress.ledger.address) (fit : progress.Fit) :
    (attempt.trial progress).Sound := by
  obtain ⟨outcome, ran⟩ : ∃ outcome, Runs (attempt.provisioner.run progress.key attempt.text)
      (attempt.start progress) outcome (attempt.trial progress).after := ⟨_, .run _ _⟩
  cases Provisioner.run_inv ran with
  | atAccount opens => exact trial_sound_of_account fits fit opens
  | atSigner opens signer => exact trial_sound_of_signer fits fit opens signer
  | past opens signer late => exact trial_sound_of_late fits fit opens signer late

/-! ## What a series leaves -/

/-- At most one account is registered and at most one key bound, and then only if there was
none before. -/
theorem series_counts {attempts : List Attempt} (fit : progress.Fit)
    (fits : ∀ attempt ∈ attempts, attempt.Fits progress.ledger.address) :
    ((series attempts progress).map Trial.registrations).sum + progress.ledger.owned ≤ 1 ∧
      ((series attempts progress).map Trial.bindings).sum + progress.held ≤ 1 := by
  induction attempts generalizing progress with
  | nil => exact ⟨by simpa [series] using progress.ledger.owned_le_one,
      by simpa [series] using progress.held_le_one⟩
  | cons attempt rest ih =>
    obtain ⟨here, others⟩ := List.forall_mem_cons.mp fits
    have sound := trial_sound here fit
    have isBefore : (attempt.trial progress).before = progress := rfl
    obtain ⟨registered, bound⟩ := ih sound.fit (sound.address ▸ others)
    have registrations := sound.registrations
    have bindings := sound.bindings
    rw [isBefore] at registrations bindings
    simp only [series, List.map_cons, List.sum_cons]
    omega

/-- All runs that open do so with one number: the account there was, if there was one. -/
theorem series_account {attempts : List Attempt} (fit : progress.Fit)
    (fits : ∀ attempt ∈ attempts, attempt.Fits progress.ledger.address) :
    ∃ account, (progress.ledger.ownAccount ≠ 0 → account = progress.ledger.ownAccount) ∧
      ∀ trial ∈ series attempts progress, ∀ number, trial.Opens number → number = account := by
  induction attempts generalizing progress with
  | nil => exact ⟨progress.ledger.ownAccount, fun _ => rfl, by simp [series]⟩
  | cons attempt rest ih =>
    obtain ⟨here, others⟩ := List.forall_mem_cons.mp fits
    have sound := trial_sound here fit
    obtain ⟨account, isOwn, all⟩ := ih sound.fit (sound.address ▸ others)
    refine ⟨account, ?_, List.forall_mem_cons.mpr ⟨?_, all⟩⟩
    · intro registered
      have lasting : (attempt.trial progress).next.ledger.ownAccount =
        progress.ledger.ownAccount := sound.lasting registered
      have nonzero : (attempt.trial progress).next.ledger.ownAccount ≠ 0 := by
        rw [lasting]
        exact registered
      exact (isOwn nonzero).trans lasting
    · intro number opens
      obtain ⟨nonzero, isNumber⟩ := sound.opens number opens
      rw [← isNumber] at nonzero ⊢
      exact (isOwn nonzero).symm

/-- All signers that are kept have one public key: that of the saved one, if there was
one. -/
theorem series_publicKey {attempts : List Attempt} (fit : progress.Fit)
    (fits : ∀ attempt ∈ attempts, attempt.Fits progress.ledger.address) :
    ∃ publicKey, (∀ saved, progress.saved = some saved → publicKey = saved.publicKey) ∧
      ∀ trial ∈ series attempts progress, ∀ signer, trial.after.kept = some signer →
        signer.publicKey = publicKey := by
  induction attempts generalizing progress with
  | nil =>
    cases isSaved : progress.saved with
    | none => exact ⟨[], nofun, by simp [series]⟩
    | some saved =>
      refine ⟨saved.publicKey, ?_, by simp [series]⟩
      intro other isSome
      cases isSome
      rfl
  | cons attempt rest ih =>
    obtain ⟨here, others⟩ := List.forall_mem_cons.mp fits
    have sound := trial_sound here fit
    obtain ⟨publicKey, isSaved, all⟩ := ih sound.fit (sound.address ▸ others)
    refine ⟨publicKey, ?_, List.forall_mem_cons.mpr ⟨?_, all⟩⟩
    · intro saved wasSaved
      cases isKept : (attempt.trial progress).after.kept with
      | some kept =>
        rw [isSaved kept (Trial.saved_next_of_kept isKept)]
        exact sound.keeps kept isKept saved wasSaved
      | none => exact isSaved saved ((Trial.saved_next_of_unkept isKept).trans wasSaved)
    · intro signer isKept
      exact (isSaved signer (Trial.saved_next_of_kept isKept)).symm

theorem series_silent {attempts : List Attempt} (fit : progress.Fit)
    (fits : ∀ attempt ∈ attempts, attempt.Fits progress.ledger.address) :
    ∀ trial ∈ series attempts progress, trial.before.key ≠ none →
      trial.before.ledger.accountOf trial.owner ≠ 0 →
        ∀ transaction, .sent transaction ∉ trial.after.journal := by
  induction attempts generalizing progress with
  | nil => simp [series]
  | cons attempt rest ih =>
    obtain ⟨here, others⟩ := List.forall_mem_cons.mp fits
    have sound := trial_sound here fit
    refine List.forall_mem_cons.mpr ⟨?_, ih sound.fit (sound.address ▸ others)⟩
    intro handed registered
    have isOwn : (attempt.trial progress).before.ledger.accountOf (attempt.trial progress).owner =
      progress.ledger.ownAccount := Ledger.accountOf_eq_ownAccount here.own
    rw [isOwn] at registered
    exact sound.silent handed registered

/-- Runs that follow each other on a ledger, each with the private key of the latest signer
that was kept, do nothing twice: over all of them at most one account is registered and at
most one key is bound, all that get an account get the same one, all that get a signer get
the same public key, and who is handed a key and finds an account sends no transaction. -/
theorem series_works_once (attempts : List Attempt) (ledger : Ledger)
    (positive : 1 ≤ ledger.nextAccount)
    (fits : ∀ attempt ∈ attempts, attempt.Fits ledger.address) :
    ((series attempts ⟨ledger, none⟩).map Trial.registrations).sum ≤ 1 ∧
    ((series attempts ⟨ledger, none⟩).map Trial.bindings).sum ≤ 1 ∧
    (∃ account, ∀ trial ∈ series attempts ⟨ledger, none⟩, ∀ number,
      trial.Opens number → number = account) ∧
    (∃ publicKey, ∀ trial ∈ series attempts ⟨ledger, none⟩, ∀ signer,
      trial.after.kept = some signer → signer.publicKey = publicKey) ∧
    ∀ trial ∈ series attempts ⟨ledger, none⟩, trial.before.key ≠ none →
      trial.before.ledger.accountOf trial.owner ≠ 0 →
        ∀ transaction, .sent transaction ∉ trial.after.journal := by
  have fit : Progress.Fit ⟨ledger, none⟩ := ⟨fun _ => positive, nofun⟩
  obtain ⟨registrations, bindings⟩ := series_counts fit fits
  obtain ⟨account, -, same⟩ := series_account fit fits
  obtain ⟨publicKey, -, alike⟩ := series_publicKey fit fits
  exact ⟨Nat.le_of_add_right_le registrations, Nat.le_of_add_right_le bindings,
    ⟨account, same⟩, ⟨publicKey, alike⟩, series_silent fit fits⟩

/-! ### A series of two -/

/-- A run whose naming authority cannot be reached. -/
def sample : Attempt where
  provisioner :=
    { settings := Settings.ofEndpoints "http://chain" "01" "http://hub"
      custody := ⟨1, "0x7e5f4552091a69125d5dfcb7b8c2659029395bdf"⟩
      hub := ⟨"http://hub", none⟩
      authority := ⟨"http://names"⟩ }
  text := .str "hi"
  clock := Clock.ofStart (Binary64.ofInt 1700000000)
  seeds := [List.replicate 32 1]
  generated := 0
  peers := { Peers.silent with queue := [⟨[], .lost "reset"⟩] }

def sampleLedger : Ledger :=
  Ledger.create "0x7e5f4552091a69125d5dfcb7b8c2659029395bdf" 5 1 7

theorem sample_fits : sample.Fits sampleLedger.address :=
  ⟨congrArg Text.lower rfl, rfl, by decide⟩

set_option maxRecDepth 4000 in
theorem sample_counts :
    (series [sample, sample] ⟨sampleLedger, none⟩).map
      (fun trial => (trial.registrations, trial.bindings)) = [(1, 1), (0, 0)] := by
  decide +kernel

theorem sample_series_works_once :
    (series [sample, sample] ⟨sampleLedger, none⟩).map
      (fun trial => (trial.registrations, trial.bindings)) = [(1, 1), (0, 0)] ∧
    (∃ account, ∀ trial ∈ series [sample, sample] ⟨sampleLedger, none⟩, ∀ number,
      trial.Opens number → number = account) ∧
    ∃ publicKey, ∀ trial ∈ series [sample, sample] ⟨sampleLedger, none⟩, ∀ signer,
      trial.after.kept = some signer → signer.publicKey = publicKey := by
  have fits : ∀ attempt ∈ [sample, sample], attempt.Fits sampleLedger.address := by
    intro attempt member
    simp only [List.mem_cons, List.not_mem_nil, or_false, or_self] at member
    exact member ▸ sample_fits
  obtain ⟨-, -, account, publicKey, -⟩ :=
    series_works_once [sample, sample] sampleLedger (by decide) fits
  exact ⟨sample_counts, account, publicKey⟩

end Attempt

end Provisioning
