import Provisioning.Proofs.Run.StageMoves
import Provisioning.Proofs.Run.Stages

/-!
# The order of a run

Everything that a run does to the outside, on a ledger and with whatever the peers answer,
is one itinerary: at most one registration, at most one transaction for a key, the talk
with the hub about it, at most one lookup and one claim of a name, and at most two
submissions. Nothing of a stage is done unless the stages before it are
(`Provisioner.Follows`), and a run has a result exactly if the hub accepts both
submissions. Main statement: `Provisioner.run_follows_itinerary`.
-/

namespace Provisioning

open Session

/-- What a run does to the outside, stage by stage. -/
structure Itinerary where
  registering : Option Move
  binding : Option Move
  listings : List Move
  retrying : Option Move
  looking : Option Move
  claiming : Option Move
  updating : Option Move
  posting : Option Move

namespace Itinerary

/-- What the hub is asked about the key. -/
def settling (itinerary : Itinerary) : List Move :=
  itinerary.listings ++ itinerary.retrying.toList

def submissions (itinerary : Itinerary) : List Move :=
  itinerary.updating.toList ++ itinerary.posting.toList

/-- The stages behind the one of the signer. -/
def afterSigner (itinerary : Itinerary) : List Move :=
  itinerary.looking.toList ++ itinerary.claiming.toList ++ itinerary.submissions

/-- The stages behind the one of the account. -/
def afterAccount (itinerary : Itinerary) : List Move :=
  itinerary.binding.toList ++ itinerary.settling ++ itinerary.afterSigner

/-- All moves, in their order. -/
def moves (itinerary : Itinerary) : List Move :=
  itinerary.registering.toList ++ itinerary.afterAccount

end Itinerary

namespace Provisioner

variable {provisioner : Provisioner} {key : Option SigningKey} {text : Json}
variable {before after : Session}

/-! ## Completed stages -/

/-- The first stage is complete: there is an account. -/
def HasAccount (provisioner : Provisioner) (before : Session) (number : Int)
    (opened : Session) : Prop :=
  Runs provisioner.opening before (.ok number) opened

/-- The second stage is complete, too: there is a signer. -/
def HasSigner (provisioner : Provisioner) (key : Option SigningKey) (before : Session)
    (number : Int) (signer : DelegatedSigner) (signed : Session) : Prop :=
  ∃ opened, provisioner.HasAccount before number opened ∧
    Runs (Authorization.ensure provisioner.settings provisioner.custody provisioner.hub
      (.int number) provisioner.custody.address key) opened (.ok signer) signed

/-- The third stage is complete, too: there is a name. -/
def HasName (provisioner : Provisioner) (key : Option SigningKey) (before : Session)
    (number : Int) (signer : DelegatedSigner) (name : Json) (named : Session) : Prop :=
  ∃ signed, provisioner.HasSigner key before number signer signed ∧
    Runs (provisioner.authority.ensure provisioner.custody (.int number)
      provisioner.custody.address) { signed with kept := some signer } (.ok name) named

/-- What a run publishes, and for whom. -/
structure Draft where
  number : Int
  signer : DelegatedSigner
  name : Json
  profile : Body
  post : Body

/-- The three stages are complete, and both bodies are valid: the name that the third stage
ended in as an update of the profile, and the given text as a post. -/
def Drafts (provisioner : Provisioner) (key : Option SigningKey) (text : Json)
    (before : Session) (draft : Draft) : Prop :=
  (∃ named, provisioner.HasName key before draft.number draft.signer draft.name named) ∧
    Body.profileUpdate (.int ProfileField.username.code) draft.name = .ok draft.profile ∧
    Body.newPost text (.arr []) (.arr []) (.arr []) .null = .ok draft.post

/-- The request hands in a message made of a body of a draft. -/
def Hands (provisioner : Provisioner) (draft : Draft) (body : Body) : Http.Request → Prop :=
  Publication.Submits provisioner.hub draft.number provisioner.settings.network.code
    draft.signer body

/-- What is known of a body of a draft once the hub has accepted it. -/
def Reports (provisioner : Provisioner) (draft : Draft) (body : Body)
    (publication : Publication) : Move → Prop :=
  Publication.IsOf provisioner.hub draft.number provisioner.settings.network.code
    draft.signer body publication

/-! ## The last stage -/

/-- The submissions of a run: the update of the profile, and then the post. -/
structure Publishes (provisioner : Provisioner) (key : Option SigningKey) (text : Json)
    (before : Session) (outcome : Except Failure Provisioned) (updating posting : Option Move) :
    Prop where
  /-- Nothing is submitted unless both bodies are valid. -/
  drafts : updating.toList ++ posting.toList ≠ [] → ∃ draft, provisioner.Drafts key text before draft ∧
    (∀ move ∈ updating, move.IsRequest (provisioner.Hands draft draft.profile)) ∧
    ∀ move ∈ posting, move.IsRequest (provisioner.Hands draft draft.post)
  /-- The post is only submitted once the update is accepted. -/
  follows : posting ≠ none → ∃ move ∈ updating, move.Succeeded
  complete : (∃ result, outcome = .ok result) ↔
    (∃ move ∈ updating, move.Succeeded) ∧ ∃ move ∈ posting, move.Succeeded
  /-- A result holds what the hub said to both, in their order. -/
  reports : ∀ result, outcome = .ok result → ∃ draft first second,
    provisioner.Drafts key text before draft ∧ result.publications = [first, second] ∧
    result.account = draft.number ∧ result.signer = draft.signer ∧ result.name = draft.name ∧
    (∃ move ∈ updating, provisioner.Reports draft draft.profile first move) ∧
    ∃ move ∈ posting, provisioner.Reports draft draft.post second move

/-- A run that fails before it submits anything. -/
theorem Publishes.nothing (failure : Failure) :
    provisioner.Publishes key text before (.error failure) none none :=
  ⟨fun some => absurd rfl some, fun some => absurd rfl some, by simp, nofun⟩

theorem bodies_ok_inv {name : Json} {made : List Body} (isMade : bodies name text = .ok made) :
    ∃ profile post, made = [profile, post] ∧
      Body.profileUpdate (.int ProfileField.username.code) name = .ok profile ∧
      Body.newPost text (.arr []) (.arr []) (.arr []) .null = .ok post := by
  obtain ⟨profile, isProfile, isMade⟩ := bind_ok_inv isMade
  obtain ⟨post, isPost, isMade⟩ := bind_ok_inv isMade
  cases isMade
  exact ⟨profile, post, rfl, isProfile, isPost⟩

theorem Reports.succeeded {draft : Draft} {body : Body} {publication : Publication} {move : Move}
    (reports : provisioner.Reports draft body publication move) : move.Succeeded := by
  cases move with
  | call | print => exact reports.elim
  | exchange request path response? =>
    cases response? with
    | none => exact reports.elim
    | some response => exact reports.2.1

/-- Publishing two bodies: the second one is submitted only if the first one is accepted. -/
theorem publishAll_moves (draft : Draft) {outcome : Except Failure (List Publication)}
    (run : Runs (provisioner.publishAll (.int draft.number) draft.signer
      [draft.profile, draft.post]) before outcome after) :
    ∃ updating posting : Option Move, Makes (updating.toList ++ posting.toList) before after ∧
      (∀ move ∈ updating, move.IsRequest (provisioner.Hands draft draft.profile)) ∧
      (∀ move ∈ posting, move.IsRequest (provisioner.Hands draft draft.post)) ∧
      (posting ≠ none → ∃ move ∈ updating, move.Succeeded) ∧
      ((∃ move ∈ posting, move.Succeeded) → ∃ publications, outcome = .ok publications) ∧
      ∀ publications, outcome = .ok publications → ∃ first second,
        publications = [first, second] ∧
        (∃ move ∈ updating, provisioner.Reports draft draft.profile first move) ∧
        ∃ move ∈ posting, provisioner.Reports draft draft.post second move := by
  rcases run.bind_inv with ⟨first, updated, updates, rest⟩ | ⟨failure, updates, rfl⟩
  · obtain ⟨updating, makes, kind, -, reports⟩ := Publication.publish_moves updates
    obtain ⟨move, member, report⟩ := reports first rfl
    have accepted : ∃ move ∈ updating, move.Succeeded := ⟨move, member, Reports.succeeded report⟩
    rcases rest.bind_inv with ⟨others, posted, posts, rest⟩ | ⟨failure, posts, rfl⟩
    · obtain ⟨rfl, rfl⟩ := rest.pure_inv
      rcases posts.bind_inv with ⟨second, published, posts, rest⟩ | ⟨failure, -, isOk⟩
      · obtain ⟨posting, makes', kind', -, reports'⟩ := Publication.publish_moves posts
        obtain ⟨isOk, rfl⟩ := (Runs.pure_bind rest).pure_inv
        cases isOk
        refine ⟨updating, posting, makes.trans makes', kind, kind', fun _ => accepted,
          fun _ => ⟨_, rfl⟩, fun publications isOk => ?_⟩
        exact ⟨first, second, (Except.ok.inj isOk).symm, ⟨move, member, report⟩, reports' second rfl⟩
      · cases isOk
    · rcases posts.bind_inv with ⟨second, published, posts, rest⟩ | ⟨failure, posts, -⟩
      · cases (Runs.pure_bind rest).pure_inv.1
      · obtain ⟨posting, makes', kind', success, -⟩ := Publication.publish_moves posts
        refine ⟨updating, posting, makes.trans makes', kind, kind', fun _ => accepted,
          fun succeeded => ?_, nofun⟩
        obtain ⟨_, isOk⟩ := success succeeded
        cases isOk
  · obtain ⟨updating, makes, kind, -, -⟩ := Publication.publish_moves updates
    exact ⟨updating, none, by simpa using makes, kind, by simp, fun some => absurd rfl some,
      by simp, nofun⟩

/-- What publishing both bodies does, once a run has a name. -/
theorem publishing_moves {number : Int} {signer : DelegatedSigner} {name : Json} {made : List Body}
    {named published : Session} {outcome : Except Failure (List Publication)}
    (hasName : provisioner.HasName key before number signer name named)
    (isMade : bodies name text = .ok made)
    (publishes : Runs (provisioner.publishAll (.int number) signer made) named outcome published) :
    ∃ updating posting : Option Move, Makes (updating.toList ++ posting.toList) named published ∧
      provisioner.Publishes key text before
        (outcome.map (⟨number, provisioner.custody.address, signer, name, ·⟩)) updating posting := by
  obtain ⟨profile, post, rfl, isProfile, isPost⟩ := bodies_ok_inv isMade
  have drafts : provisioner.Drafts key text before ⟨number, signer, name, profile, post⟩ :=
    ⟨⟨named, hasName⟩, isProfile, isPost⟩
  obtain ⟨updating, posting, makes, kind, kind', follows, success, reports⟩ :=
    publishAll_moves ⟨number, signer, name, profile, post⟩ publishes
  refine ⟨updating, posting, makes, fun _ => ⟨_, drafts, kind, kind'⟩, follows, ?_, ?_⟩
  · constructor
    · rintro ⟨result, isOk⟩
      cases outcome with
      | error failure => cases isOk
      | ok publications =>
        obtain ⟨first, second, -, ⟨move, member, report⟩, move', member', report'⟩ :=
          reports publications rfl
        exact ⟨⟨move, member, Reports.succeeded report⟩, move', member', Reports.succeeded report'⟩
    · rintro ⟨-, succeeded⟩
      obtain ⟨publications, rfl⟩ := success succeeded
      exact ⟨_, rfl⟩
  · rintro result isOk
    cases outcome with
    | error failure => cases isOk
    | ok publications =>
      obtain ⟨first, second, rfl, report, report'⟩ := reports publications rfl
      cases isOk
      exact ⟨_, first, second, drafts, rfl, rfl, rfl, rfl, report, report'⟩

/-! ## All stages -/

/-- A run goes by an itinerary: its moves are those of the stages, and none is made before
the stages in front of it are complete. -/
structure Follows (provisioner : Provisioner) (key : Option SigningKey) (text : Json)
    (before : Session) (outcome : Except Failure Provisioned) (itinerary : Itinerary) : Prop where
  registers : ∀ move ∈ itinerary.registering, move.IsTransaction "IdGateway" "register"
  account : itinerary.afterAccount ≠ [] →
    (∀ move ∈ itinerary.registering, move.Succeeded) ∧
    ∃ number opened, provisioner.HasAccount before number opened
  binds : ∀ move ∈ itinerary.binding, move.IsTransaction "KeyGateway" "add"
  /-- A key that is handed in takes no transaction. -/
  supplied : key.isSome → itinerary.binding = none
  lists : ∀ move ∈ itinerary.listings, move.IsRequest provisioner.hub.IsListing
  retries : ∀ move ∈ itinerary.retrying, move.IsRequest provisioner.hub.IsRetry
  /-- The hub is asked about a key only if the settings say so, and once the key is bound. -/
  settles : itinerary.settling ≠ [] →
    provisioner.settings.pollsVisibility = true ∧ ∃ move ∈ itinerary.binding, move.Succeeded
  signer : itinerary.afterSigner ≠ [] →
    (key = none → ∃ move ∈ itinerary.binding, move.Succeeded) ∧
    ∃ number taken signed, provisioner.HasSigner key before number taken signed
  looks : ∀ move ∈ itinerary.looking, ∃ number opened,
    provisioner.HasAccount before number opened ∧
    move.IsRequest (provisioner.authority.IsLookup (.int number))
  claims : ∀ move ∈ itinerary.claiming, move.IsRequest provisioner.authority.IsClaim
  /-- A name is claimed only if the lookup found none. -/
  unnamed : itinerary.claiming ≠ none →
    ∃ move ∈ itinerary.looking, move.IsAnswered NamingAuthority.KnowsNone
  publishes : provisioner.Publishes key text before outcome itinerary.updating itinerary.posting

/-- What the first stage does. -/
theorem opening_moves {ledger : Contract.Ledger} {outcome : Except Failure Int}
    (opens : Runs provisioner.opening before outcome after) (on : before.chain = .ledger ledger) :
    ∃ registering, CallsOnce "IdGateway" "register" registering before outcome after := by
  obtain ⟨registering, calls⟩ := Account.ensure_moves opens.note_bind on
  exact ⟨registering, calls.after_talk (.noted _ _ _ _ _)⟩

/-- What a run does behind the signer: the name, and then the submissions. -/
theorem late_moves {number : Int} {taken : DelegatedSigner} {signed : Session}
    {outcome : Except Failure Provisioned}
    (hasSigner : provisioner.HasSigner key before number taken signed)
    (late : provisioner.Late text number taken signed after outcome) :
    ∃ looking claiming updating posting : Option Move,
      Makes (looking.toList ++ claiming.toList ++ (updating.toList ++ posting.toList)) signed
        after ∧
      (∀ move ∈ looking, move.IsRequest (provisioner.authority.IsLookup (.int number))) ∧
      (∀ move ∈ claiming, move.IsRequest provisioner.authority.IsClaim) ∧
      (claiming ≠ none → ∃ move ∈ looking, move.IsAnswered NamingAuthority.KnowsNone) ∧
      provisioner.Publishes key text before outcome updating posting := by
  have keeps : Makes [] signed { signed with kept := some taken } := Makes.refl signed
  cases late with
  | atName names =>
    obtain ⟨looking, claiming, makes, looks, claims, unnamed⟩ := NamingAuthority.ensure_moves names
    exact ⟨looking, claiming, none, none, by simpa using keeps.trans makes, looks, claims, unnamed,
      .nothing _⟩
  | atBodies names isFault =>
    obtain ⟨looking, claiming, makes, looks, claims, unnamed⟩ := NamingAuthority.ensure_moves names
    exact ⟨looking, claiming, none, none, by simpa using keeps.trans makes, looks, claims, unnamed,
      .nothing _⟩
  | publishing names isMade publishes noted =>
    obtain ⟨looking, claiming, makes, looks, claims, unnamed⟩ := NamingAuthority.ensure_moves names
    obtain ⟨updating, posting, submits, publishing⟩ :=
      publishing_moves ⟨signed, hasSigner, names⟩ isMade publishes
    exact ⟨looking, claiming, updating, posting,
      (keeps.trans makes).trans (submits.before_talk noted), looks, claims, unnamed, publishing⟩

/-- Every run on a ledger goes by an itinerary, whatever the peers answer. -/
theorem run_follows_itinerary {ledger : Contract.Ledger} {outcome : Except Failure Provisioned}
    (ran : Runs (provisioner.run key text) before outcome after)
    (on : before.chain = .ledger ledger) :
    ∃ itinerary, Makes itinerary.moves before after ∧
      provisioner.Follows key text before outcome itinerary := by
  cases run_course ran with
  | @past _ number taken opened signed opens signs late =>
    obtain ⟨registering, calls⟩ := opening_moves opens on
    obtain ⟨ledger', onOpened⟩ := calls.chain
    obtain ⟨binding, listings, retrying, binds, supplied, success⟩ :=
      Authorization.ensure_moves signs onOpened
    have hasAccount : provisioner.HasAccount before number opened := opens
    have hasSigner : provisioner.HasSigner key before number taken signed := ⟨opened, opens, signs⟩
    obtain ⟨looking, claiming, updating, posting, makes, looks, claims, unnamed, publishes⟩ :=
      late_moves hasSigner late
    refine ⟨⟨registering, binding, listings, retrying, looking, claiming, updating, posting⟩,
      calls.makes.trans (binds.makes.trans makes), ?_⟩
    exact
      { registers := calls.kind
        account := fun _ => ⟨calls.success number rfl, number, opened, hasAccount⟩
        binds := binds.kind
        supplied := supplied
        lists := binds.lists
        retries := binds.retries
        settles := binds.asks
        signer := fun _ => ⟨success taken rfl, number, taken, signed, hasSigner⟩
        looks := fun move member => ⟨number, opened, hasAccount, looks move member⟩
        claims := claims
        unnamed := unnamed
        publishes := publishes }
  | @atSigner failure number opened opens signs =>
    obtain ⟨registering, calls⟩ := opening_moves opens on
    obtain ⟨ledger', onOpened⟩ := calls.chain
    obtain ⟨binding, listings, retrying, binds, supplied, -⟩ :=
      Authorization.ensure_moves signs onOpened
    refine ⟨⟨registering, binding, listings, retrying, none, none, none, none⟩, ?_, ?_⟩
    · simpa [Itinerary.moves, Itinerary.afterAccount, Itinerary.settling,
        Itinerary.afterSigner, Itinerary.submissions] using calls.makes.trans binds.makes
    · exact
        { registers := calls.kind
          account := fun _ => ⟨calls.success number rfl, number, opened, opens⟩
          binds := binds.kind
          supplied := supplied
          lists := binds.lists
          retries := binds.retries
          settles := binds.asks
          signer := fun some => absurd rfl some
          looks := nofun
          claims := nofun
          unnamed := fun some => absurd rfl some
          publishes := .nothing failure }
  | @atAccount failure opens =>
    obtain ⟨registering, calls⟩ := opening_moves opens on
    refine ⟨⟨registering, none, [], none, none, none, none, none⟩, ?_, ?_⟩
    · simpa [Itinerary.moves, Itinerary.afterAccount, Itinerary.settling,
        Itinerary.afterSigner, Itinerary.submissions] using calls.makes
    · exact
        { registers := calls.kind
          account := fun some => absurd rfl some
          binds := nofun
          supplied := fun _ => rfl
          lists := nofun
          retries := nofun
          settles := fun some => absurd rfl some
          signer := fun some => absurd rfl some
          looks := nofun
          claims := nofun
          unnamed := fun some => absurd rfl some
          publishes := .nothing failure }

/-! ### A run through all stages -/

/-- A run that registers, binds a key, and looks once whether the hub sees it. -/
def sampleTourist : Provisioner where
  settings :=
    { Settings.ofEndpoints "http://chain" "01" "http://hub" with
      pollsVisibility := true
      visibilityTimeout := Binary64.zero }
  custody := ⟨1, "0x7e5f4552091a69125d5dfcb7b8c2659029395bdf"⟩
  hub := ⟨"http://hub", none⟩
  authority := ⟨"http://names"⟩

/-- A ledger with funds for an account; the hub knows no listing and the authority no name,
and everything else is accepted. -/
def sampleTourSession : Session where
  clock := Clock.ofStart (Binary64.ofInt 1700000000)
  seeds := [List.replicate 32 1]
  generated := 0
  chain := .ledger (Contract.Ledger.create sampleTourist.custody.address 5 1 7)
  peers := { Peers.silent with
    queue := [404, 200, 404, 200, 200, 200].map fun status => Peers.answerOf ⟨status, [], []⟩ }
  journal := []
  kept := none

def sampleTour : Except Failure Provisioned × Session :=
  StateT.run (ExceptT.run (sampleTourist.run none (.str "hi"))) sampleTourSession

set_option maxRecDepth 4000 in
theorem sampleTour_done : sampleTour.1.toOption.isSome := by
  decide +kernel

theorem sampleTour_follows_itinerary :
    Runs (sampleTourist.run none (.str "hi")) sampleTourSession sampleTour.1 sampleTour.2 ∧
    sampleTourSession.chain =
      .ledger (Contract.Ledger.create sampleTourist.custody.address 5 1 7) ∧
    ∃ itinerary, Makes itinerary.moves sampleTourSession sampleTour.2 ∧
      sampleTourist.Follows none (.str "hi") sampleTourSession sampleTour.1 itinerary ∧
      (∃ move ∈ itinerary.binding, move.Succeeded) ∧
      ∃ move ∈ itinerary.posting, move.Succeeded := by
  have ran : Runs (sampleTourist.run none (.str "hi")) sampleTourSession sampleTour.1
      sampleTour.2 := .run _ _
  obtain ⟨itinerary, makes, follows⟩ := run_follows_itinerary ran rfl
  have done : ∃ result, sampleTour.1 = .ok result := by
    have isDone := sampleTour_done
    cases outcome : sampleTour.1 with
    | ok result => exact ⟨result, rfl⟩
    | error failure =>
      rw [outcome] at isDone
      cases isDone
  obtain ⟨⟨move, updated, -⟩, posted⟩ := follows.publishes.complete.mp done
  have submitted : itinerary.afterSigner ≠ [] := by
    intro none
    simp [Itinerary.afterSigner, Itinerary.submissions, Option.mem_def.mp updated] at none
  exact ⟨ran, rfl, itinerary, makes, follows, (follows.signer submitted).1 rfl, posted⟩

end Provisioner

end Provisioning
