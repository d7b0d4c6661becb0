import Provisioning.Proofs.Run.Account
import Provisioning.Proofs.Run.Authorization
import Provisioning.Proofs.Run.Publication
import Provisioning.Proofs.Session.Moves

/-!
# Moves of the stages

What each stage of a run does to the outside on a ledger, whatever the peers answer: the
account takes at most one registration (`Account.ensure_moves`), the signer at most one
transaction for its key and then the talk with the hub (`Authorization.ensure_moves`), the
name at most one lookup and one claim (`NamingAuthority.ensure_moves`), and a message at
most one submission (`Publication.publish_moves`).
-/

namespace Provisioning

open Contract Session

/-! ## Single transactions -/

/-- At most one transaction for a function of a contract, which succeeded if the action
did. -/
structure CallsOnce {α : Type} (contract function : String) (move? : Option Move)
    (before : Session) (outcome : Except Failure α) (after : Session) : Prop where
  makes : Makes move?.toList before after
  kind : ∀ move ∈ move?, move.IsTransaction contract function
  success : ∀ value, outcome = .ok value → ∀ move ∈ move?, move.Succeeded
  chain : ∃ ledger, after.chain = .ledger ledger

namespace CallsOnce

variable {α β : Type} {contract function : String} {move? : Option Move}
variable {before middle after : Session} {ledger : Ledger}

/-- No transaction at all. -/
theorem of_talk {outcome : Except Failure α} (talk : Extends noRequest before after)
    (on : before.chain = .ledger ledger) :
    CallsOnce contract function none before outcome after :=
  ⟨.of_talk talk, by simp, by simp, ledger, talk.chain.trans on⟩

theorem after_talk {outcome : Except Failure α} (talk : Extends noRequest before middle)
    (calls : CallsOnce contract function move? middle outcome after) :
    CallsOnce contract function move? before outcome after :=
  ⟨calls.makes.after_talk talk, calls.kind, calls.success, calls.chain⟩

/-- The action goes on with talk, and only if the transaction succeeded. -/
theorem before_talk {value : α} {outcome : Except Failure β}
    (calls : CallsOnce contract function move? before (.ok value) middle)
    (talk : Extends noRequest middle after) :
    CallsOnce contract function move? before outcome after := by
  obtain ⟨ledger, on⟩ := calls.chain
  exact ⟨calls.makes.before_talk talk, calls.kind, fun _ _ => calls.success value rfl, ledger,
    talk.chain.trans on⟩

/-- An action that fails as the transaction did. -/
theorem failed {failure failure' : Failure}
    (calls : CallsOnce contract function move? before (.error failure : Except Failure α) after) :
    CallsOnce contract function move? before (.error failure' : Except Failure β) after :=
  ⟨calls.makes, calls.kind, nofun, calls.chain⟩

end CallsOnce

theorem Chain.transact_callsOnce {before after : Session} {ledger : Ledger}
    {contract function : String} {args : List Arg} {value : Int} {gasLimit : Option Int}
    {outcome : Except Failure Receipt}
    (run : Runs (Chain.transact contract function args value gasLimit) before outcome after)
    (on : before.chain = .ledger ledger) :
    ∃ move, CallsOnce contract function (some move) before outcome after := by
  obtain ⟨chain, makes⟩ := Chain.transact_moves run on
  refine ⟨_, makes, ?_, ?_, chain⟩
  · rintro move ⟨⟩
    exact ⟨rfl, rfl⟩
  · rintro receipt rfl move ⟨⟩
    rfl

/-! ## The account -/

namespace Account

variable {before after : Session} {ledger : Ledger} {owner : String}

theorem talks_decodeEvents (contract name : String) (receipt : Receipt) :
    Talks noRequest (Chain.decodeEvents contract name receipt) := by
  rw [Chain.decodeEvents]
  split
  · exact .pure _
  · exact .bind (.require _) fun _ => .require _

theorem talks_numberIn (owner : String) (receipt : Receipt) :
    Talks noRequest (numberIn owner receipt) := by
  refine .bind (talks_decodeEvents _ _ _) fun events => ?_
  split
  · exact .throw _
  · exact .bind (.require _) fun _ => .bind (.note _ _ _) fun _ => .pure _

theorem register_moves {recovery : String} {price : Int} {outcome : Except Failure Int}
    (run : Runs (register owner recovery price) before outcome after)
    (on : before.chain = .ledger ledger) :
    ∃ move?, CallsOnce "IdGateway" "register" move? before outcome after := by
  obtain ⟨noted, talk, run⟩ := register_sends run
  rcases run.bind_inv with ⟨receipt, sent, sends, rest⟩ | ⟨failure, sends, rfl⟩
  · obtain ⟨move, calls⟩ := Chain.transact_callsOnce sends (talk.chain.trans on)
    exact ⟨some move, (calls.before_talk (talks_numberIn _ _ rest)).after_talk talk⟩
  · obtain ⟨move, calls⟩ := Chain.transact_callsOnce sends (talk.chain.trans on)
    exact ⟨some move, calls.failed.after_talk talk⟩

/-- Making sure of an account takes at most one registration. -/
theorem ensure_moves {recovery : Option String} {outcome : Except Failure Int}
    (run : Runs (ensure owner recovery) before outcome after)
    (on : before.chain = .ledger ledger) :
    ∃ move?, CallsOnce "IdGateway" "register" move? before outcome after := by
  cases ensure_course run on with
  | known registered talk => exact ⟨none, .of_talk talk on⟩
  | foreign unregistered other same | penniless unregistered own empty same
  | short unregistered own held less same =>
    subst same
    exact ⟨none, .of_talk (.refl _ _) on⟩
  | due due registering => exact register_moves registering on

end Account

/-! ## The signer -/

namespace Hub

/-- Requests for the keys of an account, and for nothing else. -/
theorem keysOf_requests (hub : Hub) (account : Json) :
    Requests hub.IsListing (hub.keysOf account) := by
  refine .bind (.exchange ⟨rfl, rfl⟩) fun response => .of_quiet ?_
  refine .ite (fun _ => .pure _) fun _ => .ite (fun _ => .throw _) fun _ => ?_
  exact .bind (.require _) fun _ => .require _

theorem retryEvents_moves {hub : Hub} {account : Json} {before after : Session}
    {outcome : Except Failure Unit} (run : Runs (hub.retryEvents account) before outcome after) :
    ∃ move? : Option Move, Makes move?.toList before after ∧
      ∀ move ∈ move?, move.IsRequest hub.IsRetry := by
  have asks : Runs (do
      let response ← Session.post (hub.base ++ "/v1/admin/retryOnchainEvents")
        (Json.obj [("fid", account)]).plainBytes hub.postHeaders
      if !response.ok then
        throw (.hub (s!"retryOnchainEvents({account.text}) failed: HTTP " ++
          s!"{Numeral.intText response.status}: {response.text}"))
      Session.note .info .hub s!"Requested on-chain event retry for fid {account.text}")
      before outcome after →
      ∃ move? : Option Move, Makes move?.toList before after ∧
        ∀ move ∈ move?, move.IsRequest hub.IsRetry := by
    intro run
    rcases run.bind_inv with ⟨response, asked, asks, rest⟩ | ⟨failure, asks, -⟩
    · obtain ⟨move?, makes, exchanges⟩ := exchange_moves asks
      have quiet : Extends noRequest asked after :=
        Talks.ite (fun _ => .bind (.throw _) fun _ => .note _ _ _) (fun _ => .note _ _ _) rest
      exact ⟨move?, makes.before_talk quiet, exchanges.isRequest ⟨rfl, rfl⟩⟩
    · obtain ⟨move?, makes, exchanges⟩ := exchange_moves asks
      exact ⟨move?, makes, exchanges.isRequest ⟨rfl, rfl⟩⟩
  rw [Hub.retryEvents] at run
  rcases Runs.guard_inv run with ⟨-, rfl, rfl⟩ | ⟨-, run⟩
  · exact ⟨none, .refl _, by simp⟩
  · exact asks run

end Hub

namespace Authorization

variable {settings : Settings} {custody : CustodySigner} {hub : Hub} {account : Json}
variable {owner : String} {key : Bytes} {before after : Session} {ledger : Ledger}

theorem poll_requests (timeout interval start : Binary64) (retries : Nat) :
    Requests hub.IsListing (poll hub account key timeout interval start retries) := by
  induction retries with
  | zero => exact .bind (hub.keysOf_requests account) fun _ => .of_quiet (.pure _)
  | succ retries ih =>
    refine .bind (hub.keysOf_requests account) fun keys => .ite (.of_quiet (.pure _)) ?_
    refine .bind (.of_quiet .get) fun session => .ite (.of_quiet (.pure _)) ?_
    exact .bind (.of_quiet (.sleep interval)) fun _ => ih

theorem awaitVisible_requests :
    Requests hub.IsListing (awaitVisible settings hub account key) := by
  refine .bind (.of_quiet (.require _)) fun count => .bind (.of_quiet .get) fun session => ?_
  refine .bind (poll_requests _ _ _ _) fun seen => ?_
  split
  · exact .bind (.of_quiet (.note _ _ _)) fun _ => .of_quiet (.pure _)
  · exact .of_quiet (.pure _)

/-- What is asked of the hub about a key: listings, and then at most one retry. -/
structure AsksHub (hub : Hub) (listings : List Move) (retrying : Option Move)
    (before after : Session) : Prop where
  makes : Makes (listings ++ retrying.toList) before after
  lists : ∀ move ∈ listings, move.IsRequest hub.IsListing
  retries : ∀ move ∈ retrying, move.IsRequest hub.IsRetry

theorem AsksHub.of_talk (talk : Extends noRequest before after) :
    AsksHub hub [] none before after :=
  ⟨.of_talk talk, by simp, by simp⟩

theorem AsksHub.before_talk {listings : List Move} {retrying : Option Move} {middle : Session}
    (asks : AsksHub hub listings retrying before middle) (talk : Extends noRequest middle after) :
    AsksHub hub listings retrying before after :=
  ⟨asks.makes.before_talk talk, asks.lists, asks.retries⟩

theorem checkVisible_moves {outcome : Except Failure Bool}
    (run : Runs (checkVisible settings hub account key) before outcome after) :
    ∃ listings retrying, AsksHub hub listings retrying before after := by
  rcases run.bind_inv with ⟨seen, awaited, awaits, rest⟩ | ⟨failure, awaits, -⟩
  · obtain ⟨listings, makes, lists⟩ := awaitVisible_requests awaits
    split at rest
    · obtain ⟨-, rfl⟩ := rest.pure_inv
      exact ⟨listings, none, by simpa using makes, lists, by simp⟩
    · rcases rest.bind_inv with ⟨_, warned, warns, rest⟩ | ⟨failure, warns, -⟩
      · have warning : Extends noRequest awaited warned := Talks.note _ _ _ warns
        rcases rest.bind_inv with ⟨_, retried, asks, rest⟩ | ⟨failure, asks, -⟩
        · obtain ⟨retrying, makes', retries⟩ := Hub.retryEvents_moves asks
          obtain ⟨-, rfl⟩ := rest.pure_inv
          exact ⟨listings, retrying, makes.trans (makes'.after_talk warning), lists, retries⟩
        · obtain ⟨retrying, makes', retries⟩ := Hub.retryEvents_moves asks
          exact ⟨listings, retrying, makes.trans (makes'.after_talk warning), lists, retries⟩
      · cases (Runs.modify_inv warns).1
  · obtain ⟨listings, makes, lists⟩ := awaitVisible_requests awaits
    exact ⟨listings, none, by simpa using makes, lists, by simp⟩

theorem isVisible_moves {outcome : Except Failure Bool}
    (run : Runs (isVisible settings hub account key) before outcome after) :
    ∃ listings retrying, AsksHub hub listings retrying before after ∧
      (listings ++ retrying.toList ≠ [] → settings.pollsVisibility = true) := by
  rw [isVisible] at run
  split at run
  · obtain ⟨-, rfl⟩ := run.pure_inv
    exact ⟨[], none, .of_talk (.refl _ _), fun some => absurd rfl some⟩
  · next polls =>
    have polls : settings.pollsVisibility = true := by simpa using polls
    rcases run.tryCatch_inv with ⟨seen, checks, -⟩ | ⟨failure, checked, checks, handles⟩
    · obtain ⟨listings, retrying, asks⟩ := checkVisible_moves checks
      exact ⟨listings, retrying, asks, fun _ => polls⟩
    · obtain ⟨listings, retrying, asks⟩ := checkVisible_moves checks
      have handled : Extends noRequest checked after := by
        split at handles
        · exact Talks.bind (.note _ _ _) (fun _ => .pure _) handles
        · exact Talks.throw _ handles
      exact ⟨listings, retrying, asks.before_talk handled, fun _ => polls⟩

/-- Settling asks the hub, and only if the settings say so. -/
theorem settle_moves {outcome : Except Failure Unit}
    (run : Runs (settle settings hub account key) before outcome after) :
    ∃ listings retrying, AsksHub hub listings retrying before after ∧
      (listings ++ retrying.toList ≠ [] → settings.pollsVisibility = true) := by
  rcases run.bind_inv with ⟨visible, looked, looks, rest⟩ | ⟨failure, looks, -⟩
  · obtain ⟨listings, retrying, asks, polls⟩ := isVisible_moves looks
    have waits : Extends noRequest looked after := by
      split at rest
      · exact Talks.pure _ rest
      · exact Talks.ite (fun _ => .bind (.note _ _ _) fun _ => .sleep _) (fun _ => .pure _) rest
    exact ⟨listings, retrying, asks.before_talk waits, polls⟩
  · obtain ⟨listings, retrying, asks, polls⟩ := isVisible_moves looks
    exact ⟨listings, retrying, asks, polls⟩

theorem submitKey_callsOnce {metadata : Bytes} {outcome : Except Failure Receipt}
    (run : Runs (submitKey account key metadata) before outcome after)
    (on : before.chain = .ledger ledger) :
    ∃ move, CallsOnce "KeyGateway" "add" (some move) before outcome after := by
  rcases run.tryCatch_inv with ⟨receipt, sent, rfl⟩ | ⟨failure, middle, sent, handled⟩
  · exact Chain.transact_callsOnce sent on
  · obtain ⟨move, calls⟩ := Chain.transact_callsOnce sent on
    have thrown : outcome = .error (refusalOf account key failure) ∧ after = middle := by
      cases failure <;> exact handled.throw_inv
    obtain ⟨rfl, rfl⟩ := thrown
    exact ⟨move, calls.failed⟩

/-- What making sure of a signer does to the outside: at most one transaction for a key,
and then what the hub is asked. -/
structure Binds (settings : Settings) (hub : Hub) (binding : Option Move)
    (listings : List Move) (retrying : Option Move) (before : Session)
    (outcome : Except Failure DelegatedSigner) (after : Session) : Prop where
  makes : Makes (binding.toList ++ (listings ++ retrying.toList)) before after
  kind : ∀ move ∈ binding, move.IsTransaction "KeyGateway" "add"
  lists : ∀ move ∈ listings, move.IsRequest hub.IsListing
  retries : ∀ move ∈ retrying, move.IsRequest hub.IsRetry
  /-- The hub is asked only if the settings say so and the transaction succeeded. -/
  asks : listings ++ retrying.toList ≠ [] →
    settings.pollsVisibility = true ∧ ∃ move ∈ binding, move.Succeeded
  chain : ∃ ledger, after.chain = .ledger ledger

/-- Nothing but talk. -/
theorem Binds.of_talk {outcome : Except Failure DelegatedSigner}
    (talk : Extends noRequest before after) (on : before.chain = .ledger ledger) :
    Binds settings hub none [] none before outcome after :=
  ⟨.of_talk talk, by simp, by simp, by simp, fun some => absurd rfl some, ledger,
    talk.chain.trans on⟩

/-- A fresh key takes one transaction at most, and a signer only comes of it if that
succeeded. -/
theorem authorize_moves {outcome : Except Failure DelegatedSigner}
    (run : Runs (authorize settings custody hub account owner) before outcome after)
    (on : before.chain = .ledger ledger) :
    ∃ binding listings retrying,
      Binds settings hub binding listings retrying before outcome after ∧
        ∀ signer, outcome = .ok signer → ∃ move ∈ binding, move.Succeeded := by
  rcases run.bind_inv with ⟨signer, made, generated, guarded⟩ | ⟨failure, generated, -⟩
  · obtain ⟨-, fresh⟩ := generateSigner_inv generated
    rcases guarded.guard_inv with ⟨-, rfl, rfl⟩ | ⟨-, signing⟩
    · exact ⟨none, [], none, .of_talk fresh on, nofun⟩
    rcases signing.bind_inv with ⟨metadata, signed, making, noting⟩ | ⟨failure, making, rfl⟩
    · rcases noting.bind_inv with ⟨_, noted, notes, sending⟩ | ⟨failure, notes, -⟩
      · have talk : Extends noRequest before noted :=
          (fresh.trans (talks_signedMetadata _ _ _ making)).trans (Talks.note _ _ _ notes)
        rcases sending.bind_inv with ⟨receipt, bound, sent, rest⟩ | ⟨failure, sent, rfl⟩
        · obtain ⟨move, calls⟩ := submitKey_callsOnce sent (talk.chain.trans on)
          have calls := calls.after_talk talk
          have success : move.Succeeded := calls.success receipt rfl move rfl
          have settled {outcome : Except Failure Unit} {noted after : Session}
              (talk : Extends noRequest bound noted)
              (settles : Runs (settle settings hub account signer.publicKey) noted outcome after)
              {outcome : Except Failure DelegatedSigner} :
              ∃ binding listings retrying,
                Binds settings hub binding listings retrying before outcome after ∧
                  ∀ signer, outcome = .ok signer → ∃ move ∈ binding, move.Succeeded := by
            obtain ⟨listings, retrying, asks, polls⟩ := settle_moves settles
            obtain ⟨ledger', onBound⟩ := calls.chain
            have chain := (talks_settle _ settles).chain.trans (talk.chain.trans onBound)
            exact ⟨some move, listings, retrying,
              ⟨calls.makes.trans (asks.makes.after_talk talk), calls.kind, asks.lists,
                asks.retries, fun some => ⟨polls some, move, rfl, success⟩, ledger', chain⟩,
              fun _ _ => ⟨move, rfl, success⟩⟩
          have settling := rest.note_bind
          rcases settling.bind_inv with ⟨_, last, settles, returning⟩ | ⟨failure, settles, rfl⟩
          · obtain ⟨rfl, rfl⟩ := returning.pure_inv
            exact settled (.noted _ _ _ _ _) settles
          · exact settled (.noted _ _ _ _ _) settles
        · obtain ⟨move, calls⟩ := submitKey_callsOnce sent (talk.chain.trans on)
          have calls := calls.after_talk talk
          refine ⟨some move, [], none, ⟨by simpa using calls.makes, calls.kind, by simp, by simp,
            fun some => absurd rfl some, calls.chain⟩, nofun⟩
      · cases (Runs.modify_inv notes).1
    · exact ⟨none, [], none, .of_talk (fresh.trans (talks_signedMetadata _ _ _ making)) on, nofun⟩
  · cases (generateSigner_inv generated).1

/-- Making sure of a signer takes no transaction if a key is handed in, and one at most
otherwise. -/
theorem ensure_moves {number : Int} {key : Option SigningKey}
    {outcome : Except Failure DelegatedSigner}
    (run : Runs (ensure settings custody hub (.int number) owner key) before outcome after)
    (on : before.chain = .ledger ledger) :
    ∃ binding listings retrying,
      Binds settings hub binding listings retrying before outcome after ∧
        (key.isSome → binding = none) ∧
        ∀ signer, outcome = .ok signer → key = none → ∃ move ∈ binding, move.Succeeded := by
  cases key with
  | none =>
    obtain ⟨binding, listings, retrying, binds, success⟩ := authorize_moves run on
    exact ⟨binding, listings, retrying, binds, nofun, fun signer isOk _ => success signer isOk⟩
  | some key =>
    obtain ⟨talk, -⟩ := ensure_some_inv run on
    exact ⟨none, [], none, .of_talk talk on, fun _ => rfl, nofun⟩

end Authorization

/-! ## The name -/

namespace NamingAuthority

variable {authority : NamingAuthority} {custody : CustodySigner} {account : Json}
variable {owner : String} {before after : Session}

/-- The question for the name of an account. -/
def IsLookup (authority : NamingAuthority) (account : Json) (request : Http.Request) : Prop :=
  request.method = "GET" ∧ request.url = authority.base ++ "/transfers/current" ∧
    request.params = [("fid", account.text)]

/-- The claim of a name. -/
def IsClaim (authority : NamingAuthority) (request : Http.Request) : Prop :=
  request.method = "POST" ∧ request.url = authority.base ++ "/transfers"

/-- The response knows no name: the account is not found, or a document without one is. -/
def KnowsNone (response : Http.Response) : Prop :=
  response.status = 404 ∨
    response.ok = true ∧ ∃ document, response.document = .ok document ∧ username? document = none

/-- What comes of the answer to a lookup: the name in it, if any, or a failure that carries
the status and the text of the response. -/
inductive Found (account : Json) : Http.Response → Except Failure (Option Json) → Prop where
  | missing {response : Http.Response} (status : response.status = 404) :
      Found account response (.ok none)
  | refused {response : Http.Response} (status : response.status ≠ 404)
      (isError : response.ok = false) :
      Found account response
        (.error (.nameRegistration account none response.status response.text none))
  | read {response : Http.Response} {document : Json} (isOk : response.ok = true)
      (isDocument : response.document = .ok document) :
      Found account response (.ok (username? document))
  | garbled {response : Http.Response} {error : Json.DocumentError} (isOk : response.ok = true)
      (isError : response.document = .error error) :
      Found account response
        (.error (.nameRegistration account none response.status response.text
          (some (.document error))))

theorem Found.knowsNone {response : Http.Response} {name? : Option Json}
    (found : Found account response (.ok name?)) (unnamed : name? = none) :
    KnowsNone response := by
  cases found with
  | missing status => exact .inl status
  | read isOk isDocument => exact .inr ⟨isOk, _, isDocument, unnamed⟩

/-- What an answered lookup comes to. -/
theorem lookup_read {response : Http.Response} {outcome : Except Failure (Option Json)}
    (run : Runs (do
      if response.status = 404 then return none
      else if !response.ok then throw (failure account none response none)
      else
        match response.document with
        | .ok document => return username? document
        | .error error => throw (failure account none response (some (.document error))))
      before outcome after) :
    after = before ∧ Found account response outcome := by
  split at run
  · next missing =>
    obtain ⟨rfl, rfl⟩ := run.pure_inv
    exact ⟨rfl, .missing missing⟩
  next status =>
  split at run
  · next failed =>
    obtain ⟨rfl, rfl⟩ := run.throw_inv
    exact ⟨rfl, .refused status (by simpa using failed)⟩
  · next answered =>
    have isOk : response.ok = true := by simpa using answered
    split at run
    · next document isDocument =>
      obtain ⟨rfl, rfl⟩ := run.pure_inv
      exact ⟨rfl, .read isOk isDocument⟩
    · next error isError =>
      obtain ⟨rfl, rfl⟩ := run.throw_inv
      exact ⟨rfl, .garbled isOk isError⟩

theorem lookup_moves {outcome : Except Failure (Option Json)}
    (run : Runs (authority.lookup account) before outcome after) :
    ∃ looking : Option Move, Makes looking.toList before after ∧
      (∀ move ∈ looking, move.IsRequest (authority.IsLookup account)) ∧
      (outcome = .ok none → ∃ move ∈ looking, move.IsAnswered KnowsNone) := by
  rcases run.bind_inv with ⟨response, asked, asks, rest⟩ | ⟨failure, asks, rfl⟩
  · obtain ⟨looking, makes, exchanges⟩ := exchange_moves asks
    have kind : ∀ move ∈ looking, move.IsRequest (authority.IsLookup account) :=
      exchanges.isRequest ⟨rfl, rfl, rfl⟩
    obtain ⟨rfl, found⟩ := lookup_read rest
    refine ⟨looking, makes, kind, ?_⟩
    rintro rfl
    cases exchanges with
    | answered path response => exact ⟨_, rfl, found.knowsNone rfl⟩
  · obtain ⟨looking, makes, exchanges⟩ := exchange_moves asks
    exact ⟨looking, makes, exchanges.isRequest ⟨rfl, rfl, rfl⟩, nofun⟩

/-- The request that claims a name with a record. -/
def claimRequest (authority : NamingAuthority) (record : Json) : Http.Request :=
  ⟨"POST", authority.base ++ "/transfers", [], [("Content-Type", "application/json")],
    record.plainBytes⟩

/-- What is made of the answer to a claim. -/
def conclude (account : Json) (response : Http.Response) : Action String := do
  let name := fallbackName account
  if !response.ok then throw (failure account (some name) response none)
  note .info .naming s!"Name {Text.quoted name} registered for fid {account.text}"
  return name

/-- A claim is signed, at the time that the clock tells, and posted; or the clock or the
signer is at fault, and nothing is. -/
theorem claim_posts {outcome : Except Failure String}
    (run : Runs (authority.claim custody account owner) before outcome after) :
    (∃ now signature noted, before.clock.unix = .ok now ∧
      UsernameProof.sign custody (.str (fallbackName account)) (.int now) (.str owner) =
        .ok signature ∧
      Extends noRequest before noted ∧
      Runs (exchange (authority.claimRequest
        (transfer account owner (fallbackName account) now signature)) >>= conclude account)
        noted outcome after) ∨
    (∀ now signature, before.clock.unix = .ok now →
      UsernameProof.sign custody (.str (fallbackName account)) (.int now) (.str owner) ≠
        .ok signature) ∧ Extends noRequest before after := by
  rcases run.unixTime_bind.require_bind with ⟨now, telling, signing⟩ | ⟨fault, isFault, -, rfl⟩
  · rcases signing.require_bind with ⟨signature, signed, posting⟩ | ⟨fault, isFault, -, rfl⟩
    · exact .inl ⟨now, signature, _, telling, signed, .noted _ _ _ _ _, posting.note_bind⟩
    · refine .inr ⟨fun now' signature telling' signed => ?_, .refl _ _⟩
      cases telling.symm.trans telling'
      cases isFault.symm.trans signed
  · refine .inr ⟨fun now signature telling _ => ?_, .refl _ _⟩
    cases isFault.symm.trans telling

theorem talks_conclude (account : Json) (response : Http.Response) :
    Talks noRequest (conclude account response) :=
  Talks.ite (fun _ => .bind (.throw _) fun _ => .bind (.note _ _ _) fun _ => .pure _)
    fun _ => .bind (.note _ _ _) fun _ => .pure _

theorem claim_moves {outcome : Except Failure String}
    (run : Runs (authority.claim custody account owner) before outcome after) :
    ∃ claiming : Option Move, Makes claiming.toList before after ∧
      ∀ move ∈ claiming, move.IsRequest authority.IsClaim := by
  rcases claim_posts run with ⟨now, signature, noted, -, -, talk, posting⟩ | ⟨-, talk⟩
  · rcases posting.bind_inv with ⟨response, asked, asks, rest⟩ | ⟨failure, asks, -⟩
    · obtain ⟨claiming, makes, exchanges⟩ := exchange_moves asks
      have quiet := talks_conclude account response rest
      exact ⟨claiming, (makes.before_talk quiet).after_talk talk, exchanges.isRequest ⟨rfl, rfl⟩⟩
    · obtain ⟨claiming, makes, exchanges⟩ := exchange_moves asks
      exact ⟨claiming, makes.after_talk talk, exchanges.isRequest ⟨rfl, rfl⟩⟩
  · exact ⟨none, .of_talk talk, by simp⟩

/-- Making sure of a name takes one lookup at most, and then one claim at most, if the
lookup found no name. -/
theorem ensure_moves {outcome : Except Failure Json}
    (run : Runs (authority.ensure custody account owner) before outcome after) :
    ∃ looking claiming : Option Move, Makes (looking.toList ++ claiming.toList) before after ∧
      (∀ move ∈ looking, move.IsRequest (authority.IsLookup account)) ∧
      (∀ move ∈ claiming, move.IsRequest authority.IsClaim) ∧
      (claiming ≠ none → ∃ move ∈ looking, move.IsAnswered KnowsNone) := by
  rcases run.bind_inv with ⟨name?, looked, looks, rest⟩ | ⟨failure, looks, -⟩
  · obtain ⟨looking, makes, kind, unnamed⟩ := lookup_moves looks
    have alone {after : Session} (talk : Extends noRequest looked after) :
        Makes (looking.toList ++ (none : Option Move).toList) before after := by
      simpa using makes.before_talk talk
    cases name? with
    | some name =>
      have quiet : Extends noRequest looked after :=
        Talks.bind (.note _ _ _) (fun _ => .pure name) rest
      exact ⟨looking, none, alone quiet, kind, by simp, fun some => absurd rfl some⟩
    | none =>
      rcases Runs.guard_inv rest with ⟨-, -, rfl⟩ | ⟨-, claims⟩
      · exact ⟨looking, none, alone (.refl _ _), kind, by simp, fun some => absurd rfl some⟩
      · rcases claims.bind_inv with ⟨name, claimed, claims, rest⟩ | ⟨failure, claims, -⟩
        · obtain ⟨claiming, makes', kind'⟩ := claim_moves claims
          obtain ⟨-, rfl⟩ := rest.pure_inv
          exact ⟨looking, claiming, makes.trans makes', kind, kind', fun _ => unnamed rfl⟩
        · obtain ⟨claiming, makes', kind'⟩ := claim_moves claims
          exact ⟨looking, claiming, makes.trans makes', kind, kind', fun _ => unnamed rfl⟩
  · obtain ⟨looking, makes, kind, -⟩ := lookup_moves looks
    exact ⟨looking, none, by simpa using makes, kind, by simp, fun some => absurd rfl some⟩

end NamingAuthority

/-! ## Messages -/

namespace Publication

variable {hub : Hub} {body : Body} {account code : Int} {signer : DelegatedSigner}
variable {before after : Session}

/-- What is known of a message that was built of a body, once its submission was accepted. -/
def IsOf (hub : Hub) (account code : Int) (signer : DelegatedSigner) (body : Body)
    (publication : Publication) : Move → Prop
  | .exchange request _ (some response) =>
    hub.IsSubmission request ∧ response.ok = true ∧ ∃ now data,
      MessageData.build body (.int account) (.int code) .null now = .ok data ∧
      request.body = (Message.sign data signer).toWire ∧
      publication = ⟨(Message.sign data signer).hash, .int account, data.type,
        .obj (Hub.acceptedFields response)⟩
  | .exchange _ _ none | .call .. | .print _ => False

/-- Handing a message in takes one request at most, and is accepted exactly if the answer
reports success. -/
theorem submit_moves {message : Message} {outcome : Except Failure Json}
    (run : Runs (hub.submit message) before outcome after) :
    ∃ submitting : Option Move, Makes submitting.toList before after ∧
      (∀ move ∈ submitting, move.IsRequest fun request =>
        hub.IsSubmission request ∧ request.body = message.toWire) ∧
      ((∃ move ∈ submitting, move.Succeeded) → ∃ accepted, outcome = .ok accepted) ∧
      ∀ accepted, outcome = .ok accepted → ∃ request path response,
        submitting = some (.exchange request path (some response)) ∧ response.ok = true ∧
        accepted = .obj (Hub.acceptedFields response) := by
  rcases run.bind_inv with ⟨response, asked, asks, rest⟩ | ⟨failure, asks, rfl⟩
  · obtain ⟨submitting, makes, exchanges⟩ := exchange_moves asks
    have kind : ∀ move ∈ submitting, move.IsRequest fun request =>
        hub.IsSubmission request ∧ request.body = message.toWire :=
      exchanges.isRequest ⟨⟨rfl, rfl⟩, rfl⟩
    cases exchanges with
    | answered path response =>
      split at rest
      · next success =>
        obtain ⟨rfl, rfl⟩ := rest.pure_inv
        refine ⟨_, makes, kind, fun _ => ⟨_, rfl⟩, fun accepted isOk => ?_⟩
        exact ⟨_, path, response, rfl, success, (Except.ok.inj isOk).symm⟩
      · next refused =>
        obtain ⟨rfl, rfl⟩ := rest.throw_inv
        refine ⟨_, makes, kind, ?_, nofun⟩
        rintro ⟨move, ⟨⟩, success⟩
        exact absurd success refused
  · obtain ⟨submitting, makes, exchanges⟩ := exchange_moves asks
    refine ⟨submitting, makes, exchanges.isRequest ⟨⟨rfl, rfl⟩, rfl⟩, ?_, nofun⟩
    rintro ⟨move, member, success⟩
    cases exchanges with
    | nowhere => cases member
    | unanswered path =>
      cases member
      exact success.elim

/-- Publishing a body takes one submission at most, and is done exactly if that was
accepted. -/
theorem publish_moves {outcome : Except Failure Publication}
    (run : Runs (publish hub body (.int account) (.int code) signer .null) before outcome after) :
    ∃ submitting : Option Move, Makes submitting.toList before after ∧
      (∀ move ∈ submitting, move.IsRequest (Submits hub account code signer body)) ∧
      ((∃ move ∈ submitting, move.Succeeded) → ∃ publication, outcome = .ok publication) ∧
      ∀ publication, outcome = .ok publication →
        ∃ move ∈ submitting, IsOf hub account code signer body publication move := by
  rcases run.bind_inv with ⟨message, composed, composes, rest⟩ | ⟨failure, composes, rfl⟩
  · obtain ⟨rfl, built⟩ := compose_inv composes
    obtain ⟨data, isData, rfl⟩ := built message rfl
    rcases rest.bind_inv with ⟨_, noted, notes, handing⟩ | ⟨failure, notes, -⟩
    · have talk : Extends noRequest composed noted := Talks.note _ _ _ notes
      have submits {submitting : Option Move}
          (kind : ∀ move ∈ submitting, move.IsRequest fun request =>
            hub.IsSubmission request ∧ request.body = (Message.sign data signer).toWire) :
          ∀ move ∈ submitting, move.IsRequest (Submits hub account code signer body) := by
        intro move member
        have fits := kind move member
        cases move with
        | call | print => exact fits.elim
        | exchange request path response? => exact ⟨fits.1, _, data, isData, fits.2⟩
      rcases handing.bind_inv with ⟨accepted, handed, hands, rest⟩ | ⟨failure, hands, rfl⟩
      · obtain ⟨submitting, makes, kind, -, accepts⟩ := submit_moves hands
        obtain ⟨request, path, response, rfl, success, rfl⟩ := accepts accepted rfl
        obtain ⟨rfl, rfl⟩ := rest.pure_inv
        refine ⟨_, makes.after_talk talk, submits kind, fun _ => ⟨_, rfl⟩, ?_⟩
        intro publication isOk
        have fits := kind _ rfl
        exact ⟨_, rfl, fits.1, success, _, data, isData, fits.2, (Except.ok.inj isOk).symm⟩
      · obtain ⟨submitting, makes, kind, success, -⟩ := submit_moves hands
        refine ⟨submitting, makes.after_talk talk, submits kind, fun succeeded => ?_, nofun⟩
        obtain ⟨_, isOk⟩ := success succeeded
        cases isOk
    · cases (Runs.modify_inv notes).1
  · obtain ⟨rfl, -⟩ := compose_inv composes
    exact ⟨none, .refl _, by simp, by simp, nofun⟩

end Publication

end Provisioning
