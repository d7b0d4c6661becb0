import Provisioning.Proofs.Run.Accepted
import Provisioning.Proofs.Run.Itinerary

/-!
# Runs without hindrance

Nothing stands in the way of a run if the custody key is one, the settings ask for no waiting
and the locations have paths (`Provisioner.Unhindered`), the ledger can pay for one account
(`Contract.Ledger.Fresh`) and the peers accept everything. Such a run leaves no stage out
(`Itinerary.IsComplete`): only the key decides whether one is bound, and only the text whether
anything is submitted. Main statement: `Provisioner.run_performs`, which is put together from
its stages (`Provisioner.run_of_name`).
-/

namespace Provisioning

open Contract Session

variable {before : Session} {ledger : Ledger}

/-! ## What a run finds, and what it does -/

/-- A ledger that sends from an owner who has no account yet and can pay for one, with no
key and no failure in wait. -/
structure Contract.Ledger.Fresh (ledger : Ledger) (owner : String) : Prop where
  sender : owner = ledger.address
  emits : ledger.emitsEvents = true
  failures : ledger.failures = []
  unregistered : ledger.accountOf ledger.address = 0
  keys : ledger.keys = []
  funded : ledger.price ≤ ledger.balanceOf ledger.address
  held : ledger.balanceOf ledger.address ≠ 0
  isAccount : 1 ≤ ledger.nextAccount ∧ ledger.nextAccount < 2 ^ 256

/-- An itinerary that leaves nothing out: an account is registered, a key is bound if none was
given, a name is looked for and claimed, and both messages are submitted if the text makes a
post. The hub is not asked about the key. -/
structure Itinerary.IsComplete (itinerary : Itinerary) (hub : Hub) (authority : NamingAuthority)
    (fid : Int) (key : Option SigningKey) (text : String) : Prop where
  registers : ∃ move ∈ itinerary.registering,
    move.IsTransaction "IdGateway" "register" ∧ move.Succeeded
  binds : ∀ move ∈ itinerary.binding, move.IsTransaction "KeyGateway" "add" ∧ move.Succeeded
  fresh : itinerary.binding ≠ none ↔ key = none
  silent : itinerary.settling = []
  looks : ∃ move ∈ itinerary.looking, move.IsRequest (authority.IsLookup (.int fid))
  claims : ∃ move ∈ itinerary.claiming, move.IsRequest authority.IsClaim ∧ move.Succeeded
  submits : ∀ move ∈ itinerary.submissions, move.IsRequest hub.IsSubmission ∧ move.Succeeded
  posted : Body.Postable text → itinerary.updating ≠ none ∧ itinerary.posting ≠ none
  refused : ¬Body.Postable text → itinerary.submissions = []

namespace Provisioner

variable {provisioner : Provisioner}

/-- Nothing of what a run works with stands in its way: the custody key is one, keys need no
look into the registry and no time to settle, and all locations have their paths. -/
structure Unhindered (provisioner : Provisioner) : Prop where
  made : ∃ material, CustodySigner.ofKey material = .ok provisioner.custody
  trusting : provisioner.settings.verifiesSuppliedKey = false
  patient : provisioner.settings.pollsVisibility = false
  atOnce : Binary64.zero.lt provisioner.settings.settleSeconds = false
  known : Network.ofCode? provisioner.settings.network.code = some provisioner.settings.network
  looksAt : Http.Location.path (provisioner.authority.base ++ "/transfers/current") =
    .ok "/transfers/current"
  claimsAt : Http.Location.path (provisioner.authority.base ++ "/transfers") = .ok "/transfers"
  submitsAt : Http.Location.path (provisioner.hub.base ++ "/v1/submitMessage") =
    .ok "/v1/submitMessage"

/-- The signer of a run and the ledger that knows it: the account is the address's, and if no
key was given, the signer has the next fresh seed, and its key and no other is bound. -/
structure Secures (key : Option SigningKey) (fid : Int) (before : Session)
    (taken : DelegatedSigner) (ledger : Ledger) : Prop where
  account : ledger.accountOf ledger.address = fid
  seed : key = none → taken.seed = before.nextSeed.1
  bound : key = none → ∀ account publicKey, ledger.keyState account publicKey = .added ↔
    account = fid ∧ publicKey = taken.publicKey

/-- The chain has no part in the next seed. -/
theorem Secures.of_chain {key : Option SigningKey} {fid : Int} {taken : DelegatedSigner}
    {chain : Chain} (secures : Secures key fid { before with chain } taken ledger) :
    Secures key fid before taken ledger := by
  have same : ({ before with chain } : Session).nextSeed.1 = before.nextSeed.1 := by
    unfold nextSeed
    cases before.seeds <;> rfl
  exact ⟨secures.account, fun isNone => (secures.seed isNone).trans same, secures.bound⟩

/-- What the stage of the signer comes to if nothing stands in its way. -/
structure Signs (key : Option SigningKey) (fid : Int) (before : Session)
    (taken : DelegatedSigner) (binding : Option Move) (ledger : Ledger) (signed : Session) :
    Prop where
  chain : signed.chain = .ledger ledger
  clock : signed.clock = before.clock
  peers : signed.peers = before.peers
  active : taken.state = .active
  binds : ∀ move ∈ binding, move.IsTransaction "KeyGateway" "add" ∧ move.Succeeded
  fresh : binding ≠ none ↔ key = none
  secures : Secures key fid before taken ledger

theorem signer_performs {key : Option SigningKey} {fid now : Int}
    (unhindered : provisioner.Unhindered) (on : before.chain = .ledger ledger)
    (own : ledger.accountOf ledger.address = fid) (isAccount : 1 ≤ fid ∧ fid < 2 ^ 256)
    (failures : ledger.failures = []) (keys : ledger.keys = [])
    (keyed : ∀ material ∈ key, ∃ signer, SigningKey.toSigner material = .ok signer)
    (telling : before.clock.unix = .ok now) (isNow : 0 ≤ now ∧ now < 2 ^ 64) :
    ∃ taken binding ledger' signed, Signs key fid before taken binding ledger' signed ∧
      Performs (Authorization.ensure provisioner.settings provisioner.custody provisioner.hub
        (.int fid) provisioner.custody.address key) before (.ok taken) binding.toList signed := by
  cases key with
  | some material =>
    obtain ⟨signer, isSigner⟩ := keyed material rfl
    refine ⟨signer.mark .active, none, ledger, before, ?_,
      Authorization.ensure_some_performs unhindered.trusting isSigner⟩
    exact ⟨on, rfl, rfl, rfl, by simp, by simp, own, by simp, by simp⟩
  | none =>
    obtain ⟨material, made⟩ := unhindered.made
    have unprepared : Ledger.lookup ("KeyGateway", "add") ledger.failures = none := by
      rw [failures]
      rfl
    have absent (account : Int) (key : Bytes) : ledger.keyState account key = .absent := by
      rw [Ledger.keyState, keys]
      rfl
    have unbound : ledger.keyState fid (Authorization.freshSigner before).publicKey ≠ .added := by
      rw [absent]
      decide
    obtain ⟨sent, receipt, isContract, isFunction, performs⟩ :=
      Authorization.ensure_none_performs made on own isAccount unprepared unbound
        unhindered.patient unhindered.atOnce telling isNow
    refine ⟨(Authorization.freshSigner before).mark .active, some (.call sent (some receipt)),
      ledger.binding fid (Authorization.freshSigner before).publicKey sent,
      { before.nextSeed.2 with
        chain := .ledger (ledger.binding fid (Authorization.freshSigner before).publicKey sent) },
      ⟨rfl, Authorization.clock_nextSeed before, Authorization.peers_nextSeed before, rfl, ?_,
        by simp, own, fun _ => rfl, fun _ account publicKey => ?_⟩, performs⟩
    · rintro move ⟨⟩
      exact ⟨⟨isContract, isFunction⟩, rfl⟩
    · have state := ledger.keyState_addKey fid account (Authorization.freshSigner before).publicKey
        publicKey
      rw [absent] at state
      show (ledger.addKey fid _).keyState account publicKey = .added ↔ _
      rw [state]
      split
      · next same => exact ⟨fun _ => ⟨same.1.symm, same.2.symm⟩, fun _ => rfl⟩
      · next other => exact ⟨by simp, fun same => absurd ⟨same.1.symm, same.2.symm⟩ other⟩

/-! ### The submissions -/

/-- All bodies are handed in, each once, and accepted. -/
theorem publishAll_performs {signer : DelegatedSigner} {fid now : Int}
    (unhindered : provisioner.Unhindered) (accepts : before.peers.Accepts)
    (active : signer.state = .active) (isAccount : 1 ≤ fid)
    (telling : before.clock.unix = .ok now) (since : NetworkTime.epoch ≤ now)
    (bodies : List Body) :
    ∃ publications submissions, submissions.length = bodies.length ∧
      (∀ move ∈ submissions, move.IsRequest provisioner.hub.IsSubmission ∧ move.Succeeded) ∧
      Performs (provisioner.publishAll (.int fid) signer bodies) before (.ok publications)
        submissions before := by
  -- The hub is left as it was, so the rest finds it as the first body did.
  induction bodies with
  | nil => exact ⟨[], [], rfl, by simp, .pure []⟩
  | cons body rest ih =>
    obtain ⟨request, response, first, submits, -, success, publishes⟩ :=
      Publication.publish_performs body accepts active isAccount unhindered.known
        unhindered.submitsAt telling since
    obtain ⟨others, submissions, counted, all, performs⟩ := ih
    refine ⟨first :: others, .exchange request "/v1/submitMessage" (some response) :: submissions,
      congrArg (· + 1) counted, ?_, publishes.bind (performs.bind_quiet (.pure _))⟩
    exact List.forall_mem_cons.mpr ⟨⟨submits, success⟩, all⟩

/-! ### Stages in sequence -/

theorem keep_performs (taken : DelegatedSigner) :
    Performs (keep taken) before (.ok ⟨⟩) [] { before with kept := some taken } :=
  .of_steady fun _ => rfl

/-- How a run ends once it has a name: the text decides whether both bodies are submitted, or
none. -/
structure Ends (provisioner : Provisioner) (fid : Int) (taken : DelegatedSigner) (name : Json)
    (text : String) (updating posting : Option Move) (outcome : Except Failure Provisioned) :
    Prop where
  submits : ∀ move ∈ updating.toList ++ posting.toList,
    move.IsRequest provisioner.hub.IsSubmission ∧ move.Succeeded
  posted : Body.Postable text → updating ≠ none ∧ posting ≠ none ∧ ∃ publications,
    outcome = .ok ⟨fid, provisioner.custody.address, taken, name, publications⟩
  refused : ¬Body.Postable text → updating = none ∧ posting = none ∧ ∃ reason cause,
    outcome = .error (.messageConstruction (.int fid) reason cause)

section Named

variable {key : Option SigningKey} {fid : Int} {taken : DelegatedSigner} {name : Json}
variable {opened signed named : Session} {first second third : List Move}

variable (opens : Performs provisioner.opening before (.ok fid) first opened)
  (authorizes : Performs (Authorization.ensure provisioner.settings provisioner.custody
    provisioner.hub (.int fid) provisioner.custody.address key) opened (.ok taken) second signed)
  (names : Performs (provisioner.authority.ensure provisioner.custody (.int fid)
    provisioner.custody.address) { signed with kept := some taken } (.ok name) third named)

include opens authorizes names

/-- Behind three stages and two valid bodies, a run comes to what publishing them does. -/
theorem run_of_bodies {text : Json} {made : List Body} {publications : List Publication}
    {moves : List Move} {after : Session} (isMade : bodies name text = .ok made)
    (publishes : Performs (provisioner.publishAll (.int fid) taken made) named
      (.ok publications) moves after) :
    Performs (provisioner.run key text) before
      (.ok ⟨fid, provisioner.custody.address, taken, name, publications⟩)
      (first ++ (second ++ (third ++ moves))) after := by
  refine opens.bind (authorizes.bind ((keep_performs taken).quiet_bind (names.bind ?_)))
  simp only [isMade]
  exact .quiet_bind (.pure _) (publishes.bind_quiet (.note_bind (.pure _)))

/-- Behind three stages, a body that is not valid ends a run. -/
theorem run_of_fault {text : Json} {fault : Fault} (isFault : bodies name text = .error fault) :
    Performs (provisioner.run key text) before (.error (bodyFailure (.int fid) fault))
      (first ++ (second ++ third)) named := by
  refine opens.bind (authorizes.bind ((keep_performs taken).quiet_bind (names.bind_quiet ?_)))
  simp only [isFault]
  exact .bind_error (.throw _)

/-- Behind three stages, the text decides. -/
theorem run_of_name {now : Int} {profile : Body} (unhindered : provisioner.Unhindered)
    (accepts : named.peers.Accepts) (active : taken.state = .active) (isAccount : 1 ≤ fid)
    (telling : named.clock.unix = .ok now) (since : NetworkTime.epoch ≤ now)
    (isProfile : Body.profileUpdate (.int ProfileField.username.code) name = .ok profile)
    (text : String) :
    ∃ updating posting outcome, provisioner.Ends fid taken name text updating posting outcome ∧
      Performs (provisioner.run key (.str text)) before outcome
        (first ++ (second ++ (third ++ (updating.toList ++ posting.toList)))) named := by
  by_cases fits : Body.Postable text
  · have made : bodies name (.str text) = .ok [profile, .post (.str text) [] [] [] .null] := by
      rw [bodies, isProfile, Body.newPost_of_postable fits]
      rfl
    obtain ⟨publications, submissions, counted, submits, publishes⟩ :=
      publishAll_performs unhindered accepts active isAccount telling since
        [profile, .post (.str text) [] [] [] .null]
    match submissions, counted with
    | [update, post], _ =>
      exact ⟨some update, some post, _,
        ⟨submits, fun _ => ⟨nofun, nofun, publications, rfl⟩, fun unfit => absurd fits unfit⟩,
        run_of_bodies opens authorizes names made publishes⟩
  · obtain ⟨refusal, refused⟩ := Body.newPost_of_not_postable fits
    have unmade : bodies name (.str text) = .error (.refusal refusal) := by
      rw [bodies, isProfile, refused]
      rfl
    refine ⟨none, none, .error (bodyFailure (.int fid) (.refusal refusal)),
      ⟨by simp, fun posted => absurd posted fits, fun _ => ⟨rfl, rfl, _, _, rfl⟩⟩, ?_⟩
    simpa using run_of_fault opens authorizes names unmade

end Named

/-! ### All stages -/

/-- Without hindrance a run leaves no stage out, keeps the signer that the ledger then knows,
and ends as the text decides. -/
theorem run_performs {key : Option SigningKey} {now : Int} {profile : Body}
    (unhindered : provisioner.Unhindered) (on : before.chain = .ledger ledger)
    (fresh : ledger.Fresh provisioner.custody.address) (accepts : before.peers.Accepts)
    (unnamed : Json.find? (Json.int ledger.nextAccount).text before.peers.openNames = none)
    (keyed : ∀ material ∈ key, ∃ signer, SigningKey.toSigner material = .ok signer)
    (telling : before.clock.unix = .ok now) (isNow : NetworkTime.epoch ≤ now ∧ now < 2 ^ 64)
    (isProfile : Body.profileUpdate (.int ProfileField.username.code)
      (.str (NamingAuthority.fallbackName (.int ledger.nextAccount))) = .ok profile)
    (text : String) :
    ∃ (itinerary : Itinerary) (taken : DelegatedSigner) (ledger' : Ledger)
      (outcome : Except Failure Provisioned) (after : Session),
      itinerary.IsComplete provisioner.hub provisioner.authority ledger.nextAccount key text ∧
      Secures key ledger.nextAccount before taken ledger' ∧
      after.chain = .ledger ledger' ∧ after.kept = some taken ∧
      provisioner.Ends ledger.nextAccount taken
        (.str (NamingAuthority.fallbackName (.int ledger.nextAccount))) text itinerary.updating
        itinerary.posting outcome ∧
      Performs (provisioner.run key (.str text)) before outcome itinerary.moves after := by
  have times : 0 ≤ now ∧ now < 2 ^ 64 := by
    unfold NetworkTime.epoch at isNow
    omega
  have unprepared : Ledger.lookup ("IdGateway", "register") ledger.failures = none := by
    rw [fresh.failures]
    rfl
  obtain ⟨sent, receipt, isContract, isFunction, registers⟩ :=
    Account.ensure_performs provisioner.settings.recoveryAddress on fresh.sender fresh.emits
      unprepared fresh.unregistered fresh.funded fresh.held
  have opens : Performs provisioner.opening before (.ok ledger.nextAccount)
      [.call sent (some receipt)] { before with chain := .ledger (ledger.registering sent) } :=
    .note_bind registers
  obtain ⟨taken, binding, ledger', signed, signs, authorizes⟩ :=
    @signer_performs { before with chain := .ledger (ledger.registering sent) }
      (ledger.registering sent) provisioner key ledger.nextAccount now unhindered rfl
      (Ledger.accountOf_registering sent rfl) fresh.isAccount fresh.failures fresh.keys keyed telling
      times
  -- Neither the peers nor the clock have changed since the run began.
  have acceptsSigned : signed.peers.Accepts := by
    rw [signs.peers]
    exact accepts
  have unnamedSigned : Json.find? (Json.int ledger.nextAccount).text signed.peers.openNames =
      none := by
    rw [signs.peers]
    exact unnamed
  have tellingSigned : signed.clock.unix = .ok now := by
    rw [signs.clock]
    exact telling
  obtain ⟨material, made⟩ := unhindered.made
  have keptAccepts : ({ signed with kept := some taken } : Session).peers.Accepts := acceptsSigned
  obtain ⟨looking, claiming, response, peers, isLookup, isClaim, success, acceptsNamed, names⟩ :=
    NamingAuthority.ensure_performs made keptAccepts unnamedSigned unhindered.looksAt
      unhindered.claimsAt tellingSigned times
  have namedAccepts : ({ signed with kept := some taken, peers } : Session).peers.Accepts :=
    acceptsNamed
  obtain ⟨updating, posting, outcome, ends, runs⟩ :=
    run_of_name opens authorizes names unhindered namedAccepts signs.active fresh.isAccount.1
      tellingSigned isNow.1 isProfile text
  refine ⟨⟨some (.call sent (some receipt)), binding, [], none,
    some (.exchange looking "/transfers/current" (some ⟨404, [], []⟩)),
    some (.exchange claiming "/transfers" (some response)), updating, posting⟩, taken, ledger',
    outcome, { signed with kept := some taken, peers }, ?_, signs.secures.of_chain,
    signs.chain, rfl, ends, ?_⟩
  · refine
      { registers := ⟨_, rfl, ⟨isContract, isFunction⟩, rfl⟩
        binds := signs.binds
        fresh := signs.fresh
        silent := rfl
        looks := ⟨_, rfl, isLookup⟩
        claims := ⟨_, rfl, isClaim, success⟩
        submits := ends.submits
        posted := fun fits => ⟨(ends.posted fits).1, (ends.posted fits).2.1⟩
        refused := ?_ }
    intro unfit
    obtain ⟨rfl, rfl, -⟩ := ends.refused unfit
    rfl
  · simpa [Itinerary.moves, Itinerary.afterAccount, Itinerary.settling, Itinerary.afterSigner,
      Itinerary.submissions] using runs

end Provisioner

end Provisioning
