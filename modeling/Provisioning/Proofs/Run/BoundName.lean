import Provisioning.Proofs.Http.Response
import Provisioning.Proofs.Run.NameClaim
import Provisioning.Proofs.Session.Performs

/-!
# Names that are bound

A document binds a name if it holds it in a record of its own or in that of its transfer. A
lookup looks at the transfer whenever the document has a member of that name, whatever the
value, and at the document's own record only if not. So an account with a bound name keeps it,
without a claim of another, exactly if the transfer holds a name or is absent. If it is there
without a name, the account counts as unnamed, and its owner claims a name for it
(`NamingAuthority.ensure_posts`). Main statement: `NamingAuthority.bound_name_kept_iff`.
-/

namespace Provisioning.NamingAuthority

open Session

/-! ## Names in documents -/

/-- The record has a name that is a text and not empty. -/
def HoldsName (record : Json) (name : String) : Prop :=
  record.get? "username" = some (.str name) ∧ name ≠ ""

/-- The document holds the name itself, or its transfer does. -/
def BindsName (document : Json) (name : String) : Prop :=
  HoldsName document name ∨
    ∃ transfer, document.get? "transfer" = some transfer ∧ HoldsName transfer name

/-- The transfer, if there is one, holds a name. -/
def TransferNamed (document : Json) : Prop :=
  ∀ transfer, document.get? "transfer" = some transfer → ∃ name, HoldsName transfer name

/-- The name in a record, if it counts as given. -/
def nameIn (record : Json) : Option Json :=
  (record.get? "username").filter Json.truthy

variable {document record : Json} {name bound : String}

theorem nameIn_eq_text_iff : nameIn record = some (.str name) ↔ HoldsName record name := by
  rw [nameIn, Option.filter_eq_some_iff]
  simp [HoldsName, Json.truthy]

/-- The name is that in the transfer if there is one, even if it is no record. -/
theorem username?_eq (document : Json) :
    username? document = nameIn ((document.get? "transfer").getD document) := by
  cases document with
  | obj fields =>
    simp only [username?, Json.get?]
    cases (Json.find? "transfer" fields).getD (.obj fields) <;> rfl
  | null | bool | int | float | str | arr => rfl

theorem BindsName.own (binds : BindsName document name)
    (noTransfer : document.get? "transfer" = none) : HoldsName document name := by
  rcases binds with own | ⟨transfer, isTransfer, -⟩
  · exact own
  · cases noTransfer.symm.trans isTransfer

/-- Of a document that binds some name, a name that it binds is read exactly if its transfer
holds one or is absent. -/
theorem BindsName.read_iff (binds : BindsName document bound) :
    (∃ name, BindsName document name ∧ username? document = some (.str name)) ↔
      TransferNamed document := by
  rw [username?_eq]
  cases given : document.get? "transfer" with
  | none =>
    refine iff_of_true ⟨bound, binds, nameIn_eq_text_iff.mpr (binds.own given)⟩ ?_
    intro transfer isTransfer
    cases given.symm.trans isTransfer
  | some transfer =>
    rw [Option.getD_some]
    constructor
    · intro read other isOther
      obtain ⟨name, -, isName⟩ := read
      cases given.symm.trans isOther
      exact ⟨name, nameIn_eq_text_iff.mp isName⟩
    · intro named
      obtain ⟨name, held⟩ := named transfer given
      exact ⟨name, .inr ⟨transfer, given, held⟩, nameIn_eq_text_iff.mpr held⟩

/-- No name is read exactly if there is a transfer in which none counts as given. -/
theorem BindsName.unread_iff (binds : BindsName document bound) :
    username? document = none ↔
      ∃ transfer, document.get? "transfer" = some transfer ∧ nameIn transfer = none := by
  rw [username?_eq]
  cases given : document.get? "transfer" with
  | none =>
    rw [Option.getD_none, nameIn_eq_text_iff.mpr (binds.own given)]
    simp
  | some transfer => simp

/-! ## Runs -/

variable {authority : NamingAuthority} {custody : CustodySigner} {account : Json}
variable {owner : String} {before after looked answered : Session} {fid now : Int}
variable {response : Http.Response}

/-- A lookup whose answer holds a document finds what is named there, and does no more. -/
theorem lookup_document {found : Except Failure (Option Json)}
    (looks : Runs (authority.lookup account) before found looked)
    (asked : Runs (exchange (authority.lookupRequest account)) before (.ok response) answered)
    (isOk : response.ok = true) (isDocument : response.document = .ok document) :
    found = .ok (username? document) ∧ looked = answered := by
  have same {outcome : Except Failure Http.Response} {asking : Session}
      (asks : Runs (exchange (authority.lookupRequest account)) before outcome asking) :
      outcome = .ok response ∧ asking = answered := asks.unique asked
  rcases looks.bind_inv with ⟨reply, asking, asks, rest⟩ | ⟨failure, asks, -⟩
  · obtain ⟨isReply, rfl⟩ := same asks
    cases isReply
    obtain ⟨rfl, found⟩ := lookup_read rest
    refine ⟨?_, rfl⟩
    cases found with
    | missing status => simp [Http.Response.ok, status] at isOk
    | refused status isError => cases isError.symm.trans isOk
    | read isOk isOther =>
      cases isDocument.symm.trans isOther
      rfl
    | garbled isOk isError => cases isDocument.symm.trans isError
  · cases (same asks).1

/-- A name that a lookup finds is what making sure of a name ends in, with only a note behind
the lookup. -/
theorem ensure_found {named : Json} {outcome : Except Failure Json}
    (ensures : Runs (authority.ensure custody account owner) before outcome after)
    (looks : Runs (authority.lookup account) before (.ok (some named)) looked) :
    outcome = .ok named ∧ Extends noRequest looked after := by
  rcases ensures.bind_inv with ⟨name?, looked', looks', rest⟩ | ⟨failure, looks', -⟩
  · obtain ⟨isFound, rfl⟩ := looks.unique looks'
    cases isFound
    obtain ⟨rfl, rfl⟩ := rest.note_bind.pure_inv
    exact ⟨rfl, .noted _ _ _ _ _⟩
  · cases (looks.unique looks').1

/-- If a lookup finds no name, the owner's claim is signed and posted. -/
theorem ensure_posts {material : Arg} {path : String} {outcome : Except Failure Json}
    (ensures : Runs (authority.ensure custody (.int fid) owner) before outcome after)
    (looks : Runs (authority.lookup (.int fid)) before (.ok none) looked)
    (made : CustodySigner.ofKey material = .ok custody)
    (own : Text.lower owner = Text.lower custody.address) (positive : 0 < fid)
    (hasPath : Http.Location.path (authority.base ++ "/transfers") = .ok path)
    (plain : looked.peers.Plain) (telling : looked.clock.unix = .ok now)
    (isNow : 0 ≤ now ∧ now < 2 ^ 64) :
    ∃ request reply, authority.IsSignedClaim custody fid owner now request ∧
      Makes [.exchange request path reply] looked after := by
  rcases ensures.bind_inv with ⟨name?, looked', looks', rest⟩ | ⟨failure, looks', -⟩
  · obtain ⟨isFound, rfl⟩ := looks.unique looks'
    cases isFound
    rcases Runs.guard_inv rest with ⟨other, -⟩ | ⟨-, claims⟩
    · exact absurd own other
    have posts {claimed : Except Failure String} {last : Session}
        (claiming : Runs (authority.claim custody (.int fid) owner) looked claimed last) :
        ∃ request reply, authority.IsSignedClaim custody fid owner now request ∧
          Makes [.exchange request path reply] looked last := by
      obtain ⟨request, reply, signed, makes, -⟩ :=
        claim_inv claiming made own positive hasPath plain telling isNow
      exact ⟨request, reply, signed, makes⟩
    rcases claims.bind_inv with ⟨name, last, claiming, ends⟩ | ⟨failure, claiming, -⟩
    · obtain ⟨-, rfl⟩ := ends.pure_inv
      exact posts claiming
    · exact posts claiming
  · cases (looks.unique looks').1

/-- An account with a bound name is found under a name that is bound, and ends with it after
this one request, exactly if the transfer in the answer holds a name or is absent. It counts
as unnamed exactly if there is a transfer in which no name counts as given. -/
theorem bound_name_kept_iff {found : Except Failure (Option Json)}
    {outcome : Except Failure Json}
    (looks : Runs (authority.lookup account) before found looked)
    (ensures : Runs (authority.ensure custody account owner) before outcome after)
    (asked : Runs (exchange (authority.lookupRequest account)) before (.ok response) answered)
    (isOk : response.ok = true) (isDocument : response.document = .ok document)
    (binds : BindsName document bound) :
    ((∃ name path, BindsName document name ∧ found = .ok (some (.str name)) ∧
        outcome = .ok (.str name) ∧
        Makes [.exchange (authority.lookupRequest account) path (some response)] before after) ↔
      TransferNamed document) ∧
    (found = .ok none ↔
      ∃ transfer, document.get? "transfer" = some transfer ∧ nameIn transfer = none) := by
  obtain ⟨rfl, rfl⟩ := lookup_document looks asked isOk isDocument
  refine ⟨?_, ?_⟩
  · rw [← binds.read_iff]
    constructor
    · intro kept
      obtain ⟨name, -, isBound, isFound, -⟩ := kept
      exact ⟨name, isBound, Except.ok.inj isFound⟩
    · intro read
      obtain ⟨name, isBound, isName⟩ := read
      rw [isName] at looks
      obtain ⟨isOutcome, noted⟩ := ensure_found ensures looks
      obtain ⟨move?, makes, exchanges⟩ := exchange_moves asked
      cases exchanges with
      | answered path =>
        exact ⟨name, path, isBound, congrArg Except.ok isName, isOutcome, makes.before_talk noted⟩
  · rw [← binds.unread_iff]
    exact ⟨Except.ok.inj, congrArg Except.ok⟩

/-! ### A name beside a transfer -/

def sampleAuthority : NamingAuthority := ⟨"http://names"⟩

/-- A session in which the authority answers a lookup with a document, and then is at fault. -/
def answeringSession (document : Json) : Session :=
  { namelessSession with
    peers := { Peers.silent with
      queue := [Peers.answerOf (.ofJson 200 document),
        Peers.answerOf ⟨500, Utf8.encode "later", []⟩] } }

/-- The session once the lookup is answered, but for the journal. -/
def answeredSession (document : Json) : Session :=
  { answeringSession document with
    peers := { Peers.silent with queue := [Peers.answerOf ⟨500, Utf8.encode "later", []⟩] } }

theorem answeringSession_asked (document : Json) :
    Performs (exchange (sampleAuthority.lookupRequest (.int 7))) (answeringSession document)
      (.ok (.ofJson 200 document))
      [.exchange (sampleAuthority.lookupRequest (.int 7)) "/transfers/current"
        (some (.ofJson 200 document))] (answeredSession document) :=
  .exchange_responded rfl rfl

/-- Two names, of which the transfer's is not the document's own. -/
def twoNames : Json :=
  .obj [("transfer", .obj [("username", .str "ann"), ("id", .int 1)]), ("username", .str "bob")]

theorem twoNames_kept :
    BindsName twoNames "bob" ∧ ∃ name path outcome after,
      BindsName twoNames name ∧
      Runs (sampleAuthority.ensure Authorization.leastCustody (.int 7)
        Authorization.leastCustody.address) (answeringSession twoNames) outcome after ∧
      outcome = .ok (.str name) ∧
      Makes [.exchange (sampleAuthority.lookupRequest (.int 7)) path
        (some (.ofJson 200 twoNames))] (answeringSession twoNames) after := by
  have binds : BindsName twoNames "bob" := .inl ⟨rfl, by decide⟩
  have named : TransferNamed twoNames := by
    intro transfer isTransfer
    cases isTransfer
    exact ⟨"ann", rfl, by decide⟩
  have isDocument : (Http.Response.ofJson 200 twoNames).document = .ok twoNames :=
    Http.Response.document_ofJson
      (by simp [twoNames, Json.Regular, Json.RegularFields, Json.keysOf]) 200
  obtain ⟨journal, asked, -⟩ := (answeringSession_asked twoNames).runs
  obtain ⟨found, looked, looks⟩ :=
    Runs.exists_run (sampleAuthority.lookup (.int 7)) (answeringSession twoNames)
  obtain ⟨outcome, after, ensures⟩ := Runs.exists_run (sampleAuthority.ensure
    Authorization.leastCustody (.int 7) Authorization.leastCustody.address)
    (answeringSession twoNames)
  obtain ⟨name, path, isBound, -, isName, makes⟩ :=
    (bound_name_kept_iff looks ensures asked rfl isDocument binds).1.mpr named
  exact ⟨binds, name, path, outcome, after, isBound, ensures, isName, makes⟩

/-- A name beside a transfer that is null. -/
def nullTransfer : Json := .obj [("transfer", .null), ("username", .str "alice")]

/-- The account counts as unnamed, and another name is claimed for it. -/
theorem nullTransfer_claims :
    BindsName nullTransfer "alice" ∧
    (Http.Response.ofJson 200 nullTransfer).document = .ok nullTransfer ∧
    ∃ looked outcome after request reply,
      Runs (sampleAuthority.lookup (.int 7)) (answeringSession nullTransfer) (.ok none) looked ∧
      Runs (sampleAuthority.ensure Authorization.leastCustody (.int 7)
        Authorization.leastCustody.address) (answeringSession nullTransfer) outcome after ∧
      request.method = "POST" ∧ request.url = "http://names/transfers" ∧
      Makes [.exchange (sampleAuthority.lookupRequest (.int 7))
          "/transfers/current" (some (.ofJson 200 nullTransfer)),
        .exchange request "/transfers" reply] (answeringSession nullTransfer) after := by
  have binds : BindsName nullTransfer "alice" := .inl ⟨rfl, by decide⟩
  have isDocument : (Http.Response.ofJson 200 nullTransfer).document = .ok nullTransfer :=
    Http.Response.document_ofJson
      (by simp [nullTransfer, Json.Regular, Json.RegularFields, Json.keysOf]) 200
  obtain ⟨journal, asked, makes⟩ := (answeringSession_asked nullTransfer).runs
  obtain ⟨found, looked, looks⟩ :=
    Runs.exists_run (sampleAuthority.lookup (.int 7)) (answeringSession nullTransfer)
  obtain ⟨rfl, rfl⟩ := lookup_document looks asked rfl isDocument
  obtain ⟨outcome, after, ensures⟩ := Runs.exists_run (sampleAuthority.ensure
    Authorization.leastCustody (.int 7) Authorization.leastCustody.address)
    (answeringSession nullTransfer)
  have plain : (answeredSession nullTransfer).peers.Plain :=
    ⟨by simp [answeredSession, Peers.answerOf, Reply.IsPlain],
      by simp [answeredSession, Peers.silent]⟩
  have time : (answeredSession nullTransfer).clock.time.truncate? = some 1700000000 := by
    decide +kernel
  have telling : (answeredSession nullTransfer).clock.unix = .ok 1700000000 := by
    rw [Clock.unix, Json.toInt, time]
  obtain ⟨request, reply, signed, posts⟩ := ensure_posts ensures looks
    Authorization.ofKey_leastSecret rfl (by decide) rfl plain telling (by decide)
  exact ⟨binds, isDocument, _, outcome, after, request, reply, looks, ensures, signed.posts.1,
    signed.posts.2, makes.trans posts⟩

end Provisioning.NamingAuthority
