import Provisioning.Proofs.Http.Location
import Provisioning.Proofs.Hub.Listing
import Provisioning.Proofs.Run.Authorization
import Provisioning.Proofs.Session.Moves

/-!
# Fresh keys and what the hub answers

With polling, a fresh key that is bound on the ledger is handed out or lost: whoever waits
for the hub catches the hub's own failures, and no others. `Authorization.bound_key_had_iff`
says when it is handed out: the number of listings can be told from the settings, the hub
has a location, and every listing that the hub answered can be read.

What a listing comes to is decided by its reply alone (`Hub.Listed`). `Tells hub excused
action` carries this through an action: from plain peers on it ends in a value, or in a
failure that is excused, exactly if the listings answered on the way can be read. It is kept
by composition, and catching the excused failures leaves none (`Tells.recover`).
-/

namespace Provisioning

open Session Contract

/-! ## What an outcome tells of the listings -/

/-- A value, or a failure that is excused. -/
def Fine {α : Type} (excused : Failure → Prop) (outcome : Except Failure α) : Prop :=
  ∀ failure, outcome = .error failure → excused failure

theorem Fine.ok {α : Type} (excused : Failure → Prop) (value : α) :
    Fine excused (.ok value : Except Failure α) := by
  intro failure isError
  cases isError

theorem fine_error_iff {α : Type} {excused : Failure → Prop} {failure : Failure} :
    Fine excused (.error failure : Except Failure α) ↔ excused failure := by
  constructor
  · exact fun fine => fine failure rfl
  · intro isExcused failure' isError
    cases isError
    exact isExcused

/-- The listings that were answered can be read. -/
def Hub.ListsReadably (hub : Hub) (happenings : List Happening) : Prop :=
  ∀ request response, .answered request response ∈ happenings → hub.IsListing request →
    Hub.Readable response

theorem Hub.listsReadably_append {hub : Hub} {early late : List Happening} :
    hub.ListsReadably (early ++ late) ↔ hub.ListsReadably early ∧ hub.ListsReadably late := by
  constructor
  · intro all
    exact ⟨fun request response member => all request response (List.mem_append_left _ member),
      fun request response member => all request response (List.mem_append_right _ member)⟩
  · intro both request response member
    obtain ⟨allEarly, allLate⟩ := both
    rcases List.mem_append.mp member with inside | inside
    · exact allEarly request response inside
    · exact allLate request response inside

/-- From plain peers on, the action ends in a value or an excused failure exactly if the
listings answered on the way can be read. -/
def Tells {α : Type} (hub : Hub) (excused : Failure → Prop) (action : Action α) : Prop :=
  ∀ ⦃before outcome after⦄, Runs action before outcome after → before.peers.Plain →
    after.peers.Plain ∧ ∃ new, after.journal = before.journal ++ new ∧
      (Fine excused outcome ↔ hub.ListsReadably new)

namespace Tells

variable {α β : Type} {hub : Hub} {excused : Failure → Prop}

/-- An action that asks nobody and cannot fail. -/
theorem of_quiet {action : Action α} (talks : Talks noRequest action)
    (succeeds : ∀ ⦃before outcome after⦄, Runs action before outcome after →
      ∃ value, outcome = .ok value) : Tells hub excused action := by
  intro before outcome after run plain
  have talk := talks run
  obtain ⟨new, journal, all⟩ := talk.journal
  obtain ⟨value, rfl⟩ := succeeds run
  refine ⟨talk.peers (fun _ => id) ▸ plain, new, journal, fun _ => ?_, fun _ => .ok _ _⟩
  intro request response member
  exact (all _ member).elim

theorem pure (value : α) : Tells hub excused (pure value) :=
  .of_quiet (.pure value) fun _ _ _ run => ⟨value, run.pure_inv.1⟩

theorem throw {failure : Failure} (isExcused : excused failure) :
    Tells hub excused (throw failure : Action α) := by
  intro before outcome after run plain
  obtain ⟨rfl, rfl⟩ := run.throw_inv
  refine ⟨plain, [], (List.append_nil _).symm, fun _ => ?_, fun _ => fine_error_iff.mpr isExcused⟩
  intro request response member
  cases member

theorem get : Tells hub excused get :=
  .of_quiet .get fun before _ _ run => ⟨before, run.get_inv.1⟩

theorem note (level : Level) (source : Source) (text : String) :
    Tells hub excused (note level source text) :=
  .of_quiet (.note level source text) fun _ _ _ run => ⟨⟨⟩, run.modify_inv.1⟩

theorem sleep (seconds : Binary64) : Tells hub excused (sleep seconds) :=
  .of_quiet (.sleep seconds) fun _ _ _ run => ⟨⟨⟩, (Runs.record_bind run).modify_inv.1⟩

theorem bind {action : Action α} {next : α → Action β} (first : Tells hub excused action)
    (rest : ∀ value, Tells hub excused (next value)) : Tells hub excused (action >>= next) := by
  intro before outcome after run plain
  rcases run.bind_inv with ⟨value, middle, firstRun, restRun⟩ | ⟨failure, firstRun, rfl⟩
  · obtain ⟨plain', early, journal, isEarly⟩ := first firstRun plain
    obtain ⟨plain'', late, journal', isLate⟩ := rest value restRun plain'
    refine ⟨plain'', early ++ late, by rw [journal', journal, List.append_assoc], ?_⟩
    -- The first part ended in a value, so what it was answered can be read.
    have readEarly := isEarly.mp (.ok _ value)
    rw [Hub.listsReadably_append, isLate]
    exact ⟨fun readLate => ⟨readEarly, readLate⟩, fun both => both.2⟩
  · obtain ⟨plain', new, journal, isNew⟩ := first firstRun plain
    refine ⟨plain', new, journal, ?_⟩
    rw [fine_error_iff] at isNew ⊢
    exact isNew

theorem ite {condition : Prop} [Decidable condition] {action other : Action α}
    (yes : condition → Tells hub excused action) (no : ¬condition → Tells hub excused other) :
    Tells hub excused (if condition then action else other) := by
  split
  · next holds => exact yes holds
  · next fails => exact no fails

/-- Once the excused failures are caught, a value is had exactly if all could be read. -/
theorem recover {action : Action α} {handler : Failure → Action α}
    (first : Tells hub excused action)
    (handles : ∀ failure, excused failure → Tells hub (fun _ => False) (handler failure))
    (rethrows : ∀ failure, ¬excused failure → handler failure = MonadExcept.throw failure) :
    Tells hub (fun _ => False) (tryCatch action handler) := by
  intro before outcome after run plain
  rcases run.tryCatch_inv with ⟨value, firstRun, rfl⟩ | ⟨failure, middle, firstRun, handled⟩
  · obtain ⟨plain', new, journal, isNew⟩ := first firstRun plain
    exact ⟨plain', new, journal, fun _ => isNew.mp (.ok _ value), fun _ => .ok _ value⟩
  · obtain ⟨plain', early, journal, isEarly⟩ := first firstRun plain
    rw [fine_error_iff] at isEarly
    by_cases isExcused : excused failure
    · obtain ⟨plain'', late, journal', isLate⟩ := handles failure isExcused handled plain'
      refine ⟨plain'', early ++ late, by rw [journal', journal, List.append_assoc], ?_⟩
      rw [Hub.listsReadably_append, isLate]
      exact ⟨fun readLate => ⟨isEarly.mp isExcused, readLate⟩, fun both => both.2⟩
    · rw [rethrows failure isExcused] at handled
      obtain ⟨rfl, rfl⟩ := handled.throw_inv
      refine ⟨plain', early, journal, ?_⟩
      rw [fine_error_iff]
      exact ⟨False.elim, fun readable => isExcused (isEarly.mpr readable)⟩

end Tells

/-! ## Listings and retries -/

namespace Hub

variable {hub : Hub} {account : Json}

/-- Where the hub lists keys. -/
def listingUrl (hub : Hub) : String := hub.base ++ "/v1/onChainSignersByFid"

/-- Where the hub is asked to look at events again. -/
def retryUrl (hub : Hub) : String := hub.base ++ "/v1/admin/retryOnchainEvents"

/-- The hub has a location to send requests to. -/
def Located (hub : Hub) : Prop := ∃ path, Http.Location.path hub.listingUrl = .ok path

theorem Located.retry (located : hub.Located) :
    ∃ path, Http.Location.path hub.retryUrl = .ok path := by
  have hasPath : ∃ path, Http.Location.path (hub.base ++ "/v1/onChainSignersByFid") = .ok path :=
    located
  exact Http.Location.exists_path_append rfl rfl rfl rfl hasPath

/-- The request for the keys of an account. -/
def listing (hub : Hub) (account : Json) : Http.Request :=
  ⟨"GET", hub.listingUrl, [("fid", account.text)], hub.authHeaders, []⟩

/-- What comes of the answer to a listing: the keys in it, or a failure, which is the hub's
if the answer can be read. -/
inductive Listed : Option Http.Response → Except Failure (List Bytes) → Prop where
  | lost {failure : Failure} (caught : Authorization.isOfHub failure = true) :
      Listed none (.error failure)
  | missing {response : Http.Response} (status : response.status = 404) :
      Listed (some response) (.ok [])
  | refused {response : Http.Response} {failure : Failure} (status : response.status ≠ 404)
      (isError : response.ok = false) (caught : Authorization.isOfHub failure = true) :
      Listed (some response) (.error failure)
  | read {response : Http.Response} {document : Json} {keys : List Bytes}
      (isOk : response.ok = true) (isDocument : response.document = .ok document)
      (isKeys : listedKeys document = .ok keys) : Listed (some response) (.ok keys)
  | garbled {response : Http.Response} {failure : Failure} (unreadable : ¬Readable response)
      (escapes : Authorization.isOfHub failure = false) :
      Listed (some response) (.error failure)

/-- What is made of a response to a listing changes nothing. -/
theorem read_listing_inv {response : Http.Response} {message : String}
    {before after : Session} {outcome : Except Failure (List Bytes)}
    (run : Runs (do
      if response.status = 404 then return []
      else if !response.ok then throw (.hub message)
      else
        let document ← require (response.document.mapError Fault.document)
        require (listedKeys document)) before outcome after) :
    after = before ∧ Listed (some response) outcome := by
  split at run
  · next missing =>
    obtain ⟨rfl, rfl⟩ := run.pure_inv
    exact ⟨rfl, .missing missing⟩
  next status =>
  split at run
  · next failed =>
    obtain ⟨rfl, rfl⟩ := run.throw_inv
    exact ⟨rfl, .refused status (by simpa using failed) rfl⟩
  · next passed =>
    have isOk : response.ok = true := by simpa using passed
    rcases run.require_bind with ⟨document, isDocument, reading⟩ | ⟨fault, isFault, rfl, rfl⟩
    · have isDocument := mapError_ok_inv isDocument
      obtain ⟨rfl, rfl⟩ := reading.require_inv
      refine ⟨rfl, ?_⟩
      cases isKeys : listedKeys document with
      | ok keys => exact .read isOk isDocument isKeys
      | error fault =>
        refine .garbled ?_ rfl
        intro readable
        obtain ⟨other, isOther, readable⟩ := readable isOk
        cases isDocument.symm.trans isOther
        obtain ⟨keys, isRead⟩ := (listedKeys_ok_iff document).mpr readable
        cases isKeys.symm.trans isRead
    · refine ⟨rfl, .garbled ?_ rfl⟩
      intro readable
      obtain ⟨document, isDocument, -⟩ := readable isOk
      rw [isDocument] at isFault
      cases isFault

/-- A listing is asked for by one request. -/
theorem keysOf_inv {path : String} {before after : Session}
    {outcome : Except Failure (List Bytes)} (run : Runs (hub.keysOf account) before outcome after)
    (hasPath : Http.Location.path hub.listingUrl = .ok path) (plain : before.peers.Plain) :
    after.peers.Plain ∧ ∃ reply, after.journal =
        before.journal ++ (Move.exchange (hub.listing account) path reply).trace ∧
      Listed reply outcome := by
  have asks {outcome : Except Failure Http.Response} {after : Session}
      (asked : Runs (exchange (hub.listing account)) before outcome after) :=
    exchange_replied asked hasPath plain
  rcases run.bind_inv with ⟨response, middle, asked, rest⟩ | ⟨failure, asked, rfl⟩
  · obtain ⟨kept, reply, journal, replied⟩ := asks asked
    cases replied
    obtain ⟨rfl, listed⟩ := read_listing_inv rest
    exact ⟨kept, _, journal, listed⟩
  · obtain ⟨kept, reply, journal, replied⟩ := asks asked
    cases replied
    exact ⟨kept, _, journal, .lost rfl⟩

/-- The failure of a listing is the hub's exactly if the answer can be read. -/
theorem Listed.fine_iff {reply : Option Http.Response} {outcome : Except Failure (List Bytes)}
    (listed : Listed reply outcome) :
    Fine (fun failure => Authorization.isOfHub failure = true) outcome ↔
      ∀ response ∈ reply, Readable response := by
  cases listed with
  | lost caught => exact ⟨fun _ => nofun, fun _ => fine_error_iff.mpr caught⟩
  | missing status =>
    refine ⟨?_, fun _ => .ok _ _⟩
    rintro - response ⟨⟩ isOk
    simp [Http.Response.ok, status] at isOk
  | refused status isError caught =>
    refine ⟨?_, fun _ => fine_error_iff.mpr caught⟩
    rintro - response ⟨⟩ isOk
    exact absurd (isError.symm.trans isOk) (by decide)
  | @read _ document keys isOk isDocument isKeys =>
    refine ⟨?_, fun _ => .ok _ _⟩
    rintro - response ⟨⟩ -
    exact ⟨document, isDocument, (listedKeys_ok_iff document).mp ⟨keys, isKeys⟩⟩
  | garbled unreadable escapes =>
    rw [fine_error_iff, escapes]
    exact ⟨nofun, fun readable => absurd (readable _ rfl) unreadable⟩

theorem listsReadably_trace {path : String} {reply : Option Http.Response} :
    hub.ListsReadably (Move.exchange (hub.listing account) path reply).trace ↔
      ∀ response ∈ reply, Readable response := by
  cases reply with
  | none => simp [ListsReadably, Move.trace]
  | some response =>
    have isListing : hub.IsListing (hub.listing account) := ⟨rfl, rfl⟩
    simp [ListsReadably, Move.trace, isListing]

theorem keysOf_tells (located : hub.Located) :
    Tells hub (fun failure => Authorization.isOfHub failure = true) (hub.keysOf account) := by
  intro before outcome after run plain
  obtain ⟨path, hasPath⟩ := located
  obtain ⟨kept, reply, journal, listed⟩ := keysOf_inv run hasPath plain
  exact ⟨kept, _, journal, listed.fine_iff.trans listsReadably_trace.symm⟩

/-- A request that is no listing fails only on the way. -/
theorem exchange_tells {request : Http.Request}
    (hasPath : ∃ path, Http.Location.path request.url = .ok path)
    (other : ¬hub.IsListing request) :
    Tells hub (fun failure => Authorization.isOfHub failure = true)
      (Session.exchange request) := by
  intro before outcome after run plain
  cases Session.exchange_inv run with
  | nowhere noPath =>
    obtain ⟨path, hasPath⟩ := hasPath
    cases hasPath.symm.trans noPath
  | broken served => exact absurd plain served
  | lost _ kept =>
    refine ⟨kept plain, _, rfl, ?_⟩
    rw [fine_error_iff]
    simp [Authorization.isOfHub, ListsReadably]
  | answered _ kept =>
    refine ⟨kept plain, _, rfl, fun _ => ?_, fun _ => .ok _ _⟩
    intro request' response' member listing
    simp only [List.mem_cons, List.not_mem_nil, or_false, reduceCtorEq, false_or,
      Happening.answered.injEq] at member
    exact absurd (member.1 ▸ listing) other

theorem account_given {number : Int} (positive : 1 ≤ number) :
    ¬(Json.int number).same (.int 0) = true := by
  simp [Json.same, Json.isNumber, Json.sameNumber, Json.integer?]
  omega

theorem retryEvents_tells {number : Int} (positive : 1 ≤ number) (located : hub.Located) :
    Tells hub (fun failure => Authorization.isOfHub failure = true)
      (hub.retryEvents (.int number)) := by
  have other {request : Http.Request} (isPost : request.method = "POST") :
      ¬hub.IsListing request := by
    intro listing
    obtain ⟨isGet, -⟩ := listing
    exact absurd (isPost.symm.trans isGet) (by decide)
  refine .ite (fun none => absurd none (account_given positive)) fun _ => ?_
  refine .bind (exchange_tells located.retry (other rfl)) fun response => ?_
  exact .ite (fun _ => .bind (.throw rfl) fun _ => .note _ _ _) fun _ => .note _ _ _

end Hub

/-! ## Settling -/

namespace Authorization

variable {settings : Settings} {custody : CustodySigner} {hub : Hub} {account : Json}
variable {number : Int} {owner : String} {key : Bytes} {before after : Session}

theorem poll_tells (located : hub.Located) (key : Bytes) (timeout interval start : Binary64) :
    ∀ retries, Tells hub (fun failure => isOfHub failure = true)
      (poll hub account key timeout interval start retries)
  | 0 => .bind (Hub.keysOf_tells located) fun _ => .pure _
  | retries + 1 => by
    refine .bind (Hub.keysOf_tells located) fun keys => .ite (fun _ => .pure _) fun _ => ?_
    refine .bind .get fun session => .ite (fun _ => .pure _) fun _ => ?_
    exact .bind (.sleep _) fun _ => poll_tells located key timeout interval start retries

theorem awaitVisible_tells (located : hub.Located) {count : Nat}
    (isCount : retries settings.visibilityTimeout settings.pollInterval = .ok count) :
    Tells hub (fun failure => isOfHub failure = true) (awaitVisible settings hub account key) := by
  unfold awaitVisible
  rw [isCount]
  refine .bind (.pure count) fun count => .bind .get fun session => ?_
  refine .bind (poll_tells located key _ _ _ count) fun seen => ?_
  exact .ite (fun _ => .bind (.note _ _ _) fun _ => .pure _) fun _ => .pure _

theorem checkVisible_tells (positive : 1 ≤ number) (located : hub.Located) {count : Nat}
    (isCount : retries settings.visibilityTimeout settings.pollInterval = .ok count) :
    Tells hub (fun failure => isOfHub failure = true)
      (checkVisible settings hub (.int number) key) := by
  refine .bind (awaitVisible_tells located isCount) fun seen => .ite (fun _ => .pure _) fun _ => ?_
  exact .bind (.note _ _ _) fun _ =>
    .bind (Hub.retryEvents_tells positive located) fun _ => .pure _

/-- The failures of the hub are caught, and no others. -/
theorem isVisible_tells (polls : settings.pollsVisibility = true) (positive : 1 ≤ number)
    (located : hub.Located) {count : Nat}
    (isCount : retries settings.visibilityTimeout settings.pollInterval = .ok count) :
    Tells hub (fun _ => False) (isVisible settings hub (.int number) key) := by
  refine .ite (fun patient => by simp [polls] at patient) fun _ => ?_
  refine (checkVisible_tells positive located isCount).recover ?_ ?_
  · intro failure isExcused
    rw [if_pos isExcused]
    exact .bind (.note _ _ _) fun _ => .pure _
  · intro failure escapes
    rw [if_neg escapes]

theorem settle_tells (polls : settings.pollsVisibility = true) (positive : 1 ≤ number)
    (located : hub.Located) {count : Nat}
    (isCount : retries settings.visibilityTimeout settings.pollInterval = .ok count) :
    Tells hub (fun _ => False) (settle settings hub (.int number) key) := by
  refine .bind (isVisible_tells polls positive located isCount) fun seen => ?_
  refine .ite (fun _ => .pure _) fun _ => ?_
  exact .ite (fun _ => .bind (.note _ _ _) fun _ => .sleep _) fun _ => .pure _

/-- A fault on the way to the first listing is not caught. -/
theorem settle_fault {fault : Fault} (polls : settings.pollsVisibility = true)
    (awaits : Runs (awaitVisible settings hub account key) before (.error (.fault fault)) before) :
    Runs (settle settings hub account key) before (.error (.fault fault)) before := by
  have escapes : Runs (isVisible settings hub account key) before (.error (.fault fault))
      before := by
    rw [isVisible, if_neg (by simp [polls])]
    exact .tryCatch_error (.bind_error awaits) rfl
  exact .bind_error escapes

theorem awaitVisible_uncounted {fault : Fault}
    (uncounted : retries settings.visibilityTimeout settings.pollInterval = .error fault) :
    Runs (awaitVisible settings hub account key) before (.error (.fault fault)) before := by
  rw [awaitVisible, uncounted]
  exact .bind_error rfl

theorem awaitVisible_nowhere {fault : Fault} {count : Nat}
    (isCount : retries settings.visibilityTimeout settings.pollInterval = .ok count)
    (noPath : Http.Location.path hub.listingUrl = .error fault) :
    Runs (awaitVisible settings hub account key) before (.error (.fault fault)) before := by
  have asks {params headers : List (String × String)} :
      Runs (exchange ⟨"GET", hub.listingUrl, params, headers, []⟩) before
        (.error (.fault fault)) before := by
    unfold exchange
    rw [noPath]
    exact .bind_error rfl
  have lists : Runs (hub.keysOf account) before (.error (.fault fault)) before := .bind_error asks
  have polled (timeout interval start : Binary64) :
      Runs (poll hub account key timeout interval start count) before (.error (.fault fault))
        before := by
    cases count with
    | zero => exact .bind_error lists
    | succ => exact .bind_error lists
  rw [awaitVisible, isCount]
  exact .bind (show Runs (require (.ok count)) before (.ok count) before from rfl)
    (.bind (show Runs get before (.ok before) before from rfl) (.bind_error (polled _ _ _)))

/-- Settling ends well exactly if the number of listings can be told, the hub has a
location, and the listings that it answered can be read. -/
theorem settle_ok_iff {outcome : Except Failure Unit} {new : List Happening}
    (run : Runs (settle settings hub (.int number) key) before outcome after)
    (polls : settings.pollsVisibility = true) (positive : 1 ≤ number)
    (plain : before.peers.Plain) (journal : after.journal = before.journal ++ new) :
    outcome = .ok () ↔
      (∃ count, retries settings.visibilityTimeout settings.pollInterval = .ok count) ∧
        hub.Located ∧ hub.ListsReadably new := by
  cases isCount : retries settings.visibilityTimeout settings.pollInterval with
  | error fault =>
    obtain ⟨rfl, -⟩ := run.unique (settle_fault polls (awaitVisible_uncounted isCount))
    constructor
    · intro isOk
      cases isOk
    · intro condition
      obtain ⟨⟨count, isCount⟩, -⟩ := condition
      cases isCount
  | ok count =>
    cases hasPath : Http.Location.path hub.listingUrl with
    | error fault =>
      obtain ⟨rfl, -⟩ := run.unique (settle_fault polls (awaitVisible_nowhere isCount hasPath))
      constructor
      · intro isOk
        cases isOk
      · intro condition
        obtain ⟨-, ⟨path, isPath⟩, -⟩ := condition
        cases hasPath.symm.trans isPath
    | ok path =>
      have located : hub.Located := ⟨path, hasPath⟩
      obtain ⟨-, told, journal', isTold⟩ :=
        settle_tells polls positive located isCount run plain
      cases List.append_cancel_left (journal.symm.trans journal')
      rw [← isTold]
      cases outcome with
      | ok => exact ⟨fun _ => ⟨⟨count, rfl⟩, located, .ok _ _⟩, fun _ => rfl⟩
      | error failure =>
        rw [fine_error_iff]
        constructor
        · intro isOk
          cases isOk
        · intro condition
          exact condition.2.2.elim

/-! ## Fresh keys -/

theorem listsReadably_of_quiet {happenings : List Happening}
    (quiet : ∀ happening ∈ happenings, happening.IsTalk noRequest) :
    hub.ListsReadably happenings :=
  fun _ _ member => (quiet _ member).elim

theorem not_confirmed {contract function : String} {receipt : Receipt} {new : List Happening}
    (same : confirmations contract function after.journal =
      confirmations contract function before.journal)
    (journal : after.journal = before.journal ++ new) :
    .confirmed contract function receipt ∉ new := by
  intro member
  rw [journal, confirmations, confirmations, List.countP_append] at same
  have none : new.countP (Happening.isConfirmation contract function) = 0 := by omega
  have refuted := List.countP_eq_zero.mp none _ member
  simp [Happening.isConfirmation] at refuted

/-- A fresh key whose transaction is confirmed is bound on the ledger. It is handed out, in
an active signer, exactly if the number of listings can be told from the settings, the hub
has a location, and every listing that the hub answered can be read. -/
theorem bound_key_had_iff {ledger : Ledger} {outcome : Except Failure DelegatedSigner}
    {new : List Happening} {receipt : Receipt}
    (run : Runs (ensure settings custody hub (.int number) owner none) before outcome after)
    (on : before.chain = .ledger ledger) (polls : settings.pollsVisibility = true)
    (positive : 1 ≤ number) (plain : before.peers.Plain)
    (journal : after.journal = before.journal ++ new)
    (confirmed : .confirmed "KeyGateway" "add" receipt ∈ new) :
    (∃ ledger', after.chain = .ledger ledger' ∧
      ledger'.keyState (ledger.accountOf ledger.address) (freshSigner before).publicKey = .added) ∧
    (outcome = .ok ((freshSigner before).mark .active) ↔
      (∃ count, retries settings.visibilityTimeout settings.pollInterval = .ok count) ∧
        hub.Located ∧ hub.ListsReadably new) := by
  cases ensure_none_inv run on with
  | refused talk => exact absurd confirmed (not_confirmed (talk.confirmations _ _) journal)
  | reverted same reverts =>
    exact absurd confirmed (not_confirmed (reverts.confirmations _ _) journal)
  | @bound ledger' transaction receipt' ready settling settled _ _ _ added talk noted settles =>
    have hands : (settled.map fun _ => (freshSigner before).mark .active) =
        .ok ((freshSigner before).mark .active) ↔ settled = .ok () := by
      cases settled with
      | ok => exact ⟨fun _ => rfl, fun _ => rfl⟩
      | error failure => exact ⟨nofun, nofun⟩
    refine ⟨⟨ledger', (confirms_of_settles talk noted settles).chain, added⟩, ?_⟩
    obtain ⟨early, journalEarly, quietEarly⟩ := talk.journal
    obtain ⟨middle, journalMiddle, quietMiddle⟩ := noted.journal
    obtain ⟨late, journalLate, -⟩ := (talks_settle _ settles).journal
    have isPlain : settling.peers.Plain := by
      rw [noted.peers fun _ => id]
      exact (talk.peers fun _ => id) ▸ plain
    rw [hands, settle_ok_iff settles polls positive isPlain journalLate]
    -- Before settling nothing is asked, so only its listings count.
    have isNew : new = early ++ [.sent transaction, .confirmed "KeyGateway" "add" receipt'] ++
        middle ++ late := by
      rw [journalLate, journalMiddle, Session.sending] at journal
      simp only [journalEarly, List.append_assoc] at journal
      simpa only [List.append_assoc] using (List.append_cancel_left journal).symm
    have sent : hub.ListsReadably [.sent transaction, .confirmed "KeyGateway" "add" receipt'] := by
      simp [Hub.ListsReadably]
    rw [isNew, Hub.listsReadably_append, Hub.listsReadably_append, Hub.listsReadably_append]
    simp [listsReadably_of_quiet quietEarly, listsReadably_of_quiet quietMiddle, sent]

/-! ### A key that is handed out, and one that is lost -/

/-- Settings with polling, and time for one listing. -/
def sampleSettings : Settings :=
  { Settings.ofEndpoints "http://chain" "01" "http://hub" with
    pollsVisibility := true
    visibilityTimeout := Binary64.zero }

def sampleCustody : CustodySigner := ⟨1, "0x7e5f4552091a69125d5dfcb7b8c2659029395bdf"⟩

def sampleHub : Hub := ⟨"http://hub", none⟩

/-- A session of an owner with an account, and what the peers are going to answer. -/
def sampleSession (answers : List Answer) : Session where
  clock := Clock.ofStart (Binary64.ofInt 1700000000)
  seeds := [List.replicate 32 1]
  generated := 0
  chain := .ledger ((Ledger.create sampleCustody.address 5 1 7).setAccount sampleCustody.address 7)
  peers := { Peers.silent with queue := answers }
  journal := []
  kept := none

/-- What comes of a fresh key. -/
def sampleRun (answers : List Answer) : Except Failure DelegatedSigner × Session :=
  StateT.run (ExceptT.run (ensure sampleSettings sampleCustody sampleHub (.int 7)
    sampleCustody.address none)) (sampleSession answers)

theorem plain_sampleSession {answers : List Answer}
    (plain : ∀ answer ∈ answers, answer.reply.IsPlain) : (sampleSession answers).peers.Plain :=
  ⟨plain, nofun⟩

/-- The hub knows no listing, and does not answer when asked to look again. -/
def missing : List Answer := [Peers.answerOf ⟨404, [], []⟩, ⟨[], .lost "reset"⟩]

set_option maxRecDepth 4000 in
theorem missing_answered :
    (sampleRun missing).2.journal.all (fun happening =>
      match happening with
      | .answered _ response => !response.ok
      | _ => true) = true ∧
    0 < confirmations "KeyGateway" "add" (sampleRun missing).2.journal := by
  decide +kernel

theorem missing_key_had :
    (sampleRun missing).1 = .ok ((freshSigner (sampleSession missing)).mark .active) := by
  obtain ⟨unlisted, counted⟩ := missing_answered
  obtain ⟨receipt, confirmed⟩ := exists_confirmed counted
  have ran : Runs (ensure sampleSettings sampleCustody sampleHub (.int 7) sampleCustody.address
      none) (sampleSession missing) (sampleRun missing).1 (sampleRun missing).2 := .run _ _
  have plain : (sampleSession missing).peers.Plain :=
    plain_sampleSession (by simp [missing, Peers.answerOf, Reply.IsPlain])
  have readable : sampleHub.ListsReadably (sampleRun missing).2.journal := by
    intro request response member _ isOk
    have failed := List.all_eq_true.mp unlisted _ member
    simp [isOk] at failed
  have journal : (sampleRun missing).2.journal =
      (sampleSession missing).journal ++ (sampleRun missing).2.journal := (List.nil_append _).symm
  exact (bound_key_had_iff ran rfl rfl (by decide) plain journal confirmed).2.mpr
    ⟨⟨0, rfl⟩, ⟨"/v1/onChainSignersByFid", rfl⟩, readable⟩

/-- The hub answers a listing with something that is no document. -/
def unreadable : List Answer := [Peers.answerOf ⟨200, Utf8.encode "oops", []⟩]

set_option maxRecDepth 4000 in
theorem unreadable_counts :
    (sampleRun unreadable).1.isOk = false ∧
      0 < confirmations "KeyGateway" "add" (sampleRun unreadable).2.journal := by
  decide +kernel

theorem unreadable_key_lost :
    sampleSettings.pollsVisibility = true ∧ sampleSettings.visibilityTimeout.isFinite = true ∧
    sampleSettings.pollInterval.isFinite = true ∧ (sampleSession unreadable).peers.Plain ∧
    (∃ receipt, .confirmed "KeyGateway" "add" receipt ∈ (sampleRun unreadable).2.journal) ∧
    ¬∃ signer, (sampleRun unreadable).1 = .ok signer := by
  obtain ⟨failed, counted⟩ := unreadable_counts
  refine ⟨rfl, rfl, rfl, plain_sampleSession (by simp [unreadable, Peers.answerOf, Reply.IsPlain]),
    exists_confirmed counted, ?_⟩
  intro had
  obtain ⟨signer, isOk⟩ := had
  rw [isOk] at failed
  cases failed

end Authorization

end Provisioning
