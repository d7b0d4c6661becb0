import Provisioning.Proofs.Http.Response
import Provisioning.Proofs.Message.Username
import Provisioning.Proofs.Run.Documented
import Provisioning.Proofs.Run.Itinerary

/-!
# Names that are no texts

A run hands on the name that the naming authority answers without a look at its form. If it is
a text, the run keeps to the failures that are documented for it, up to its end; if it is a
number, a list or a record, the first to find out is the body of the profile update, where it
is a fault of the operation that nobody takes for a failure of the run
(`Provisioner.run_ended`). The journal tells which of the two it is
(`NamingAuthority.TellsText`). All requests are answered throughout (`Peers.Answers`).
-/

namespace Provisioning

open Contract Session

/-! ## What the journal tells of names -/

/-- The response names something. -/
def NamingAuthority.Names (response : Http.Response) (name : Json) : Prop :=
  response.ok = true ∧ ∃ document, response.document = .ok document ∧ username? document = some name

/-- A record with a name in it names it. -/
theorem NamingAuthority.names_ofJson {name : Json} (regular : name.Regular)
    (given : name.truthy = true) : Names (.ofJson 200 (.obj [("username", name)])) name := by
  have isRegular : (Json.obj [("username", name)]).Regular := by
    simpa [Json.Regular, Json.RegularFields, Json.keysOf] using regular
  refine ⟨rfl, .obj [("username", name)], Http.Response.document_ofJson isRegular 200, ?_⟩
  simp [username?, Json.find?, given]

/-- If a lookup was answered with a name, it was answered with a text. -/
def NamingAuthority.TellsText (authority : NamingAuthority) : Happening → Prop
  | .answered request response => (∃ account, authority.IsLookup account request) →
    ∀ name, Names response name → ∃ text, name = .str text
  | _ => True

/-- Something that is no text was answered as a name in between. -/
def NamingAuthority.Strays (authority : NamingAuthority) (before after : Session) : Prop :=
  ∃ new, after.journal = before.journal ++ new ∧ ∃ happening ∈ new,
    ¬authority.TellsText happening

namespace NamingAuthority

variable {authority : NamingAuthority} {before middle after : Session}

theorem tellsText_of_unanswered (happening : Happening) (unanswered : happening.IsUnanswered) :
    authority.TellsText happening := by
  cases happening with
  | answered => exact unanswered.elim
  | _ => trivial

/-- Only the answers to lookups tell names. -/
theorem tellsText_of_isTalk {fits : Http.Request → Prop}
    (posts : ∀ request, fits request → request.method ≠ "GET") (happening : Happening)
    (isTalk : happening.IsTalk fits) : authority.TellsText happening := by
  cases happening with
  | answered request response =>
    rintro ⟨account, isGet, -⟩
    exact absurd isGet (posts request isTalk)
  | _ => trivial

theorem texts_of_note (authority : NamingAuthority) (session : Session) (level : Level)
    (source : Source) (text : String) :
    Grows authority.TellsText session
      { session with journal := session.journal ++ [.noted level source text] } :=
  ⟨[_], rfl, by simp [TellsText]⟩

theorem Strays.after_texts (texts : Grows authority.TellsText before middle)
    (strays : authority.Strays middle after) : authority.Strays before after := by
  obtain ⟨early, journal, -⟩ := texts
  obtain ⟨late, journal', happening, member, other⟩ := strays
  exact ⟨early ++ late, by rw [journal', journal, List.append_assoc], happening,
    List.mem_append_right early member, other⟩

theorem Strays.before_texts (strays : authority.Strays before middle)
    (texts : Grows authority.TellsText middle after) : authority.Strays before after := by
  obtain ⟨early, journal, happening, member, other⟩ := strays
  obtain ⟨late, journal', -⟩ := texts
  exact ⟨early ++ late, by rw [journal', journal, List.append_assoc], happening,
    List.mem_append_left late member, other⟩

theorem Strays.not_texts (strays : authority.Strays before after) :
    ¬Grows authority.TellsText before after := by
  rintro ⟨new, journal, all⟩
  obtain ⟨new', journal', happening, member, other⟩ := strays
  obtain rfl := List.append_cancel_left (journal.symm.trans journal')
  exact other (all happening member)

end NamingAuthority

/-! ## The name -/

/-- Who answers more requests answers fewer. -/
theorem Peers.Answers.fewer {count : Nat} {peers : Peers} (answers : peers.Answers (count + 1)) :
    peers.Answers count := by
  induction count generalizing peers with
  | zero => trivial
  | succ count ih =>
    intro method path
    obtain ⟨response, rest, taken, others⟩ := answers method path
    exact ⟨response, rest, taken, ih others⟩

namespace NamingAuthority

variable {authority : NamingAuthority} {custody : CustodySigner} {before after : Session}
variable {count : Nat} {fid : Int}

/-- What was had as a name: a text, nothing for a documented reason, or something else. -/
inductive Had (authority : NamingAuthority) (before after : Session) : Except Failure Json → Prop
    where
  | text (text : String) (texts : Grows authority.TellsText before after) :
      Had authority before after (.ok (.str text))
  | refused {failure : Failure} (documented : failure.isProvisioning = true)
      (texts : Grows authority.TellsText before after) :
      Had authority before after (.error failure)
  | other {name : Json} (isOther : ∀ text, name ≠ .str text)
      (strays : authority.Strays before after) :
      Had authority before after (.ok name)

/-- A lookup that was answered finds what the response names. -/
theorem Found.names_iff {account name : Json} {response : Http.Response}
    {outcome : Except Failure (Option Json)} (found : Found account response outcome) :
    Names response name ↔ outcome = .ok (some name) := by
  cases found with
  | missing status => simp [Names, Http.Response.ok, status]
  | refused status isError => simp [Names, isError]
  | read isOk isDocument => simp [Names, isOk, isDocument]
  | garbled isOk isError => simp [Names, isError]

theorem Found.documented {account : Json} {response : Http.Response}
    {outcome : Except Failure (Option Json)} (found : Found account response outcome) :
    Documented outcome := by
  cases found with
  | missing | read => exact .ok _ _
  | refused | garbled => exact fine_error_iff.mpr rfl

/-- A lookup finds a name or none, or fails with a documented failure, and the journal tells
whether what is found is a text. -/
theorem lookup_answered {account : Json} {outcome : Except Failure (Option Json)}
    (run : Runs (authority.lookup account) before outcome after)
    (looksAt : ∃ path, Http.Location.path (authority.base ++ "/transfers/current") = .ok path)
    (answers : before.peers.Answers (count + 1)) :
    Documented outcome ∧ after.clock = before.clock ∧ after.peers.Answers count ∧
      ((∀ name, outcome = .ok (some name) → ∃ text, name = .str text) →
        Grows authority.TellsText before after) ∧
      ∀ name, outcome = .ok (some name) → (∀ text, name ≠ .str text) →
        authority.Strays before after := by
  have asks {outcome : Except Failure Http.Response} {after : Session}
      (asked : Runs (exchange (authority.lookupRequest account)) before outcome after) :=
    exchange_answered asked looksAt answers
  rcases run.bind_inv with ⟨response, asked, asking, rest⟩ | ⟨failure, asking, -⟩
  · obtain ⟨path, response', isOk, clock, more, journal⟩ := asks asking
    cases isOk
    obtain ⟨rfl, found⟩ := lookup_read rest
    refine ⟨found.documented, clock, more, fun texts => ⟨_, journal, ?_⟩,
      fun name isName other => ⟨_, journal, .answered (authority.lookupRequest account) response,
        by simp, fun tells => ?_⟩⟩
    · have told : ∀ name, Names response name → ∃ text, name = .str text :=
        fun name names => texts name (found.names_iff.mp names)
      simpa [TellsText] using fun _ _ => told
    · obtain ⟨text, isText⟩ := tells ⟨account, rfl, rfl, rfl⟩ name (found.names_iff.mpr isName)
      exact other text isText
  · obtain ⟨path, response, isOk, -⟩ := asks asking
    cases isOk

/-- What an answer names at once is found. -/
theorem lookup_named {account name : Json} {path : String} {response : Http.Response}
    {peers : Peers}
    (hasPath : Http.Location.path (authority.base ++ "/transfers/current") = .ok path)
    (taken : before.peers.take "GET" path = (Peers.answerOf response, peers))
    (names : Names response name) :
    Performs (authority.lookup account) before (.ok (some name))
      [.exchange (authority.lookupRequest account) path (some response)]
      { before with peers } := by
  obtain ⟨isOk, document, isDocument, isName⟩ := names
  have status : response.status ≠ 404 := by
    intro missing
    simp [Http.Response.ok, missing] at isOk
  refine .bind_quiet (.exchange_responded hasPath taken) ?_
  simp only [if_neg status, isOk, isDocument, isName]
  exact .pure _

/-- A claim gets the name, or a documented refusal of it. -/
theorem claim_answered {material : Arg} {outcome : Except Failure String}
    (run : Runs (authority.claim custody (.int fid) custody.address) before outcome after)
    (made : CustodySigner.ofKey material = .ok custody)
    (claimsAt : ∃ path, Http.Location.path (authority.base ++ "/transfers") = .ok path)
    (answers : before.peers.Answers (count + 1)) (telling : before.clock.Telling) :
    Documented outcome ∧ after.clock = before.clock ∧ after.peers.Answers count ∧
      Grows authority.TellsText before after := by
  obtain ⟨now, telling, isNow⟩ := telling
  have isTime : 0 ≤ now ∧ now < 2 ^ 256 := by omega
  obtain ⟨signature, -, signed, -⟩ :=
    UsernameProof.exists_proof made (fallbackName (.int fid)) isTime rfl
  have signing := run.unixTime_bind
  rw [telling] at signing
  have signing := signing.require_ok_bind
  rw [signed] at signing
  have posting := signing.require_ok_bind.note_bind
  rcases posting.bind_inv with ⟨response, asked, asking, rest⟩ | ⟨failure, asking, -⟩
  · obtain ⟨path, response', isOk, clock, more, journal⟩ := exchange_answered asking claimsAt answers
    cases isOk
    have texts : Grows authority.TellsText before asked :=
      ⟨_, journal.trans (List.append_assoc _ _ _), by simp [TellsText, IsLookup]⟩
    rcases rest.guard_inv with ⟨-, rfl, rfl⟩ | ⟨-, noting⟩
    · exact ⟨fine_error_iff.mpr rfl, clock, more, texts⟩
    · obtain ⟨rfl, rfl⟩ := noting.note_bind.pure_inv
      exact ⟨.ok _ _, clock, more, texts.trans (authority.texts_of_note _ _ _ _)⟩
  · obtain ⟨path, response, isOk, -⟩ := exchange_answered asking claimsAt answers
    cases isOk

/-- The owner of an account gets its name, or a documented refusal of it, unless something that
is no text is answered as the name. -/
theorem ensure_had {material : Arg} {outcome : Except Failure Json}
    (run : Runs (authority.ensure custody (.int fid) custody.address) before outcome after)
    (made : CustodySigner.ofKey material = .ok custody)
    (looksAt : ∃ path, Http.Location.path (authority.base ++ "/transfers/current") = .ok path)
    (claimsAt : ∃ path, Http.Location.path (authority.base ++ "/transfers") = .ok path)
    (answers : before.peers.Answers (count + 2)) (telling : before.clock.Telling) :
    authority.Had before after outcome ∧ after.clock = before.clock ∧
      after.peers.Answers count := by
  rcases run.bind_inv with ⟨name?, looked, looks, rest⟩ | ⟨failure, looks, rfl⟩
  · obtain ⟨-, clock, more, texts, strays⟩ := lookup_answered looks looksAt answers
    cases name? with
    | some name =>
      obtain ⟨rfl, rfl⟩ := rest.note_bind.pure_inv
      have noted := authority.texts_of_note looked .debug .naming
        s!"fid {(Json.int fid).text} already owns name {name.shown}"
      refine ⟨?_, clock, more.fewer⟩
      by_cases isText : ∃ text, name = .str text
      · obtain ⟨text, rfl⟩ := isText
        refine .text text ((texts fun name isName => ?_).trans noted)
        cases isName
        exact ⟨text, rfl⟩
      · have other : ∀ text, name ≠ .str text := fun text same => isText ⟨text, same⟩
        exact .other other ((strays name rfl other).before_texts noted)
    | none =>
      have unnamed : Grows authority.TellsText before looked := texts fun name isName => by
        cases isName
      have telling : looked.clock.Telling := by rwa [clock]
      rcases Runs.guard_inv rest with ⟨other, -⟩ | ⟨-, claims⟩
      · exact absurd rfl other
      rcases claims.bind_inv with ⟨name, claimed, claiming, rest⟩ | ⟨failure, claiming, rfl⟩
      · obtain ⟨-, clock', more, late⟩ := claim_answered claiming made claimsAt more telling
        obtain ⟨rfl, rfl⟩ := rest.pure_inv
        exact ⟨.text name (unnamed.trans late), clock'.trans clock, more⟩
      · obtain ⟨documented, clock', more, late⟩ :=
          claim_answered claiming made claimsAt more telling
        exact ⟨.refused (documented failure rfl) (unnamed.trans late), clock'.trans clock, more⟩
  · obtain ⟨documented, clock, more, texts, -⟩ := lookup_answered looks looksAt answers
    exact ⟨.refused (documented failure rfl) (texts fun name isName => by cases isName), clock,
      more.fewer⟩

end NamingAuthority

/-! ## The bodies -/

namespace Provisioner

/-- What is wrong with the bodies for a name that is a text is that a rule is broken. -/
theorem bodies_of_text {name text : String} {fault : Fault}
    (isFault : bodies (.str name) (.str text) = .error fault) : fault.isValue = true := by
  rw [bodies] at isFault
  by_cases takes : Body.TakesName name
  · rw [takes] at isFault
    by_cases fits : Body.Postable text
    · rw [Body.newPost_of_postable fits] at isFault
      cases isFault
    · obtain ⟨refusal, refused⟩ := Body.newPost_of_not_postable fits
      rw [refused] at isFault
      cases isFault
      rfl
  · obtain ⟨refusal, refused⟩ := Body.breaksRule_iff.mpr takes
    rw [refused] at isFault
    cases isFault
    rfl

/-- For a name that is no text no body is made, and no rule says so. -/
theorem bodies_of_other {name : Json} (isOther : ∀ text, name ≠ .str text) (text : Json) :
    ∃ detail, bodies name text = .error (.operation detail) := by
  have known : Json.member "UserDataType" ProfileField.ofCode? (.int ProfileField.username.code) =
      .ok .username := rfl
  rw [bodies, Body.profileUpdate, known]
  cases name with
  | str text => exact absurd rfl (isOther text)
  | null | bool | int | float | arr | obj => exact ⟨_, rfl⟩

end Provisioner

/-! ## The messages -/

namespace Publication

variable {hub : Hub} {before after : Session} {count : Nat} {fid code : Int}
variable {signer : DelegatedSigner}

/-- A message is composed, or refused with a documented failure, and nobody is asked. -/
theorem documented_compose {body : Body} {outcome : Except Failure Message}
    (run : Runs (compose body (.int fid) (.int code) signer .null) before outcome after)
    (telling : before.clock.Telling) : Documented outcome ∧ after = before := by
  obtain ⟨now, telling, -⟩ := telling
  have run : Runs (compose body (.int fid) (.int code) signer (.ofInt? none)) before outcome after :=
    run
  by_cases hindered : Hindered signer fid code none now
  · obtain ⟨same, text, cause, rfl⟩ := compose_hindered run (fun _ => telling) hindered
    exact ⟨fine_error_iff.mpr rfl, same⟩
  · obtain ⟨same, network, -, rfl⟩ := compose_unhindered run (fun _ => telling) hindered
    exact ⟨.ok _ _, same⟩

theorem documented_submit {message : Message} {outcome : Except Failure Json}
    (run : Runs (hub.submit message) before outcome after)
    (submitsAt : ∃ path, Http.Location.path (hub.base ++ "/v1/submitMessage") = .ok path)
    (answers : before.peers.Answers (count + 1)) :
    Documented outcome ∧ after.clock = before.clock ∧ after.peers.Answers count := by
  rcases run.bind_inv with ⟨response, asked, asking, rest⟩ | ⟨failure, asking, -⟩
  · obtain ⟨path, response', isOk, clock, more, -⟩ := exchange_answered asking submitsAt answers
    split at rest
    · obtain ⟨rfl, rfl⟩ := rest.pure_inv
      exact ⟨.ok _ _, clock, more⟩
    · obtain ⟨rfl, rfl⟩ := rest.throw_inv
      exact ⟨fine_error_iff.mpr rfl, clock, more⟩
  · obtain ⟨path, response, isOk, -⟩ := exchange_answered asking submitsAt answers
    cases isOk

/-- A body is accepted, or refused with a documented failure. -/
theorem documented_publish {body : Body} {outcome : Except Failure Publication}
    (run : Runs (publish hub body (.int fid) (.int code) signer .null) before outcome after)
    (submitsAt : ∃ path, Http.Location.path (hub.base ++ "/v1/submitMessage") = .ok path)
    (answers : before.peers.Answers (count + 1)) (telling : before.clock.Telling) :
    Documented outcome ∧ after.clock = before.clock ∧ after.peers.Answers count := by
  rcases run.bind_inv with ⟨message, composed, composing, rest⟩ | ⟨failure, composing, rfl⟩
  · obtain ⟨-, rfl⟩ := documented_compose composing telling
    rcases rest.note_bind.bind_inv with ⟨response, handed, handing, rest⟩ | ⟨failure, handing, rfl⟩
    · obtain ⟨-, clock, more⟩ := documented_submit handing submitsAt answers
      obtain ⟨rfl, rfl⟩ := rest.pure_inv
      exact ⟨.ok _ _, clock, more⟩
    · obtain ⟨documented, clock, more⟩ := documented_submit handing submitsAt answers
      exact ⟨documented.failed, clock, more⟩
  · obtain ⟨documented, rfl⟩ := documented_compose composing telling
    exact ⟨documented.failed, rfl, answers.fewer⟩

end Publication

/-! ## The run -/

namespace Provisioner

variable {provisioner : Provisioner} {key : Option SigningKey} {text : String}
variable {before middle signed after : Session} {ledger : Ledger}

theorem publishes_texts {body : Body} {account code : Int} {signer : DelegatedSigner}
    {outcome : Except Failure Publication} (authority : NamingAuthority)
    (run : Runs (Publication.publish provisioner.hub body (.int account) (.int code) signer .null)
      before outcome after) : Grows authority.TellsText before after := by
  refine (Publication.talks_publish _ _ _ _ _ run).journal.mono ?_
  refine NamingAuthority.tellsText_of_isTalk fun request submits isGet => ?_
  rw [submits.1.1] at isGet
  exact absurd isGet (by decide)

/-- All bodies are accepted, or one is refused with a documented failure. -/
theorem documented_publishAll {account : Int} {signer : DelegatedSigner}
    (submitsAt : ∃ path,
      Http.Location.path (provisioner.hub.base ++ "/v1/submitMessage") = .ok path)
    {bodies : List Body} {outcome : Except Failure (List Publication)}
    (run : Runs (provisioner.publishAll (.int account) signer bodies) before outcome after)
    (answers : before.peers.Answers bodies.length) (telling : before.clock.Telling) :
    Documented outcome ∧ Grows provisioner.authority.TellsText before after := by
  induction bodies generalizing before after outcome with
  | nil =>
    obtain ⟨rfl, rfl⟩ := run.pure_inv
    exact ⟨.ok _ _, .refl _ _⟩
  | cons body rest ih =>
    rcases run.bind_inv with ⟨first, published, publishes, others⟩ | ⟨failure, publishes, rfl⟩
    · obtain ⟨-, clock, more⟩ :=
        Publication.documented_publish publishes submitsAt answers telling
      have texts := publishes_texts provisioner.authority publishes
      have telling : published.clock.Telling := by rwa [clock]
      rcases others.bind_inv with ⟨all, left, publishesAll, done⟩ | ⟨failure, publishesAll, rfl⟩
      · obtain ⟨-, late⟩ := ih publishesAll more telling
        obtain ⟨rfl, rfl⟩ := done.pure_inv
        exact ⟨.ok _ _, texts.trans late⟩
      · obtain ⟨documented, late⟩ := ih publishesAll more telling
        exact ⟨documented.failed, texts.trans late⟩
    · obtain ⟨documented, -⟩ := Publication.documented_publish publishes submitsAt answers telling
      exact ⟨documented.failed, publishes_texts _ publishes⟩

/-- How a run ends: as it is documented, and then every name that was answered was a text; or
with the fault of an operation, and then one was not. -/
inductive Ended (authority : NamingAuthority) (before after : Session) :
    Except Failure Provisioned → Prop where
  | documented {outcome : Except Failure Provisioned} (documented : Documented outcome)
      (texts : Grows authority.TellsText before after) : Ended authority before after outcome
  | faulty (detail : String) (strays : authority.Strays before after) :
      Ended authority before after (.error (.fault (.operation detail)))

theorem Ended.after_texts {authority : NamingAuthority} {outcome : Except Failure Provisioned}
    (texts : Grows authority.TellsText before middle)
    (ended : Ended authority middle after outcome) : Ended authority before after outcome := by
  cases ended with
  | documented documented late => exact .documented documented (texts.trans late)
  | faulty detail strays => exact .faulty detail (strays.after_texts texts)

theorem Ended.iff_texts {authority : NamingAuthority} {outcome : Except Failure Provisioned}
    (ended : Ended authority before after outcome) :
    Documented outcome ↔ Grows authority.TellsText before after := by
  cases ended with
  | documented documented texts => exact iff_of_true documented texts
  | faulty detail strays =>
    exact iff_of_false (fun documented => Bool.false_ne_true (documented _ rfl)) strays.not_texts

/-- The peers of a run have addresses, and answer every request of it. -/
structure Answered (provisioner : Provisioner) (before : Session) : Prop where
  answers : before.peers.Answers 4
  looksAt : ∃ path,
    Http.Location.path (provisioner.authority.base ++ "/transfers/current") = .ok path
  claimsAt : ∃ path, Http.Location.path (provisioner.authority.base ++ "/transfers") = .ok path
  submitsAt : ∃ path, Http.Location.path (provisioner.hub.base ++ "/v1/submitMessage") = .ok path

/-- Behind the signer, the name decides how a run ends. -/
theorem late_ended {account : Int} {taken : DelegatedSigner} {outcome : Except Failure Provisioned}
    (late : provisioner.Late (.str text) account taken signed after outcome)
    (made : ∃ material, CustodySigner.ofKey material = .ok provisioner.custody)
    (answered : provisioner.Answered signed) (telling : signed.clock.Telling) :
    Ended provisioner.authority { signed with kept := some taken } after outcome := by
  obtain ⟨material, made⟩ := made
  have has {outcome : Except Failure Json} {named : Session}
      (names : Runs (provisioner.authority.ensure provisioner.custody (.int account)
        provisioner.custody.address) { signed with kept := some taken } outcome named) :
      provisioner.authority.Had { signed with kept := some taken } named outcome ∧
        named.clock = signed.clock ∧ named.peers.Answers 2 :=
    NamingAuthority.ensure_had names made answered.looksAt answered.claimsAt answered.answers
      telling
  cases late with
  | atName names =>
    obtain ⟨had, -⟩ := has names
    cases had with
    | refused documented texts => exact .documented (fine_error_iff.mpr documented) texts
  | atBodies names isFault =>
    obtain ⟨had, -⟩ := has names
    cases had with
    | text name texts =>
      refine .documented (fine_error_iff.mpr ?_) texts
      rw [bodyFailure, if_pos (bodies_of_text isFault)]
      rfl
    | other isOther strays =>
      obtain ⟨detail, isOperation⟩ := bodies_of_other isOther (.str text)
      cases isFault.symm.trans isOperation
      exact .faulty detail strays
  | publishing names isMade publishes noted =>
    obtain ⟨had, clock, more⟩ := has names
    cases had with
    | text name texts =>
      obtain ⟨profile, post, rfl, -⟩ := bodies_ok_inv isMade
      obtain ⟨documented, late⟩ :=
        documented_publishAll answered.submitsAt publishes more (by rwa [clock])
      have last : Grows provisioner.authority.TellsText _ after :=
        noted.journal.mono (NamingAuthority.tellsText_of_isTalk fun _ none => none.elim)
      refine .documented ?_ ((texts.trans late).trans last)
      rename_i result
      cases result with
      | ok publications => exact .ok _ _
      | error failure => exact documented.failed
    | other isOther strays =>
      obtain ⟨detail, isOperation⟩ := bodies_of_other isOther (.str text)
      cases isMade.symm.trans isOperation

/-- The number that a run opens with has 256 bits. -/
theorem opening_number {number : Int} {opened : Session}
    (opens : Runs provisioner.opening before (.ok number) opened)
    (placed : provisioner.Placed ledger before) : 0 ≤ number ∧ number < 2 ^ 256 := by
  cases opening_inv opens placed.on placed.own with
  | known => exact placed.account
  | registered unregistered address keys account confirms isNext =>
    obtain ⟨positive, bounded⟩ := placed.next
    have isNumber := isNext number rfl
    omega

/-- Up to the signer a run keeps to the failures that are documented for it, and nothing that is
answered can change that. -/
theorem signer_documented {number : Int} {opened : Session}
    {outcome : Except Failure DelegatedSigner}
    (opens : Runs provisioner.opening before (.ok number) opened)
    (signs : Runs (Authorization.ensure provisioner.settings provisioner.custody provisioner.hub
      (.int number) provisioner.custody.address key) opened outcome signed)
    (placed : provisioner.Placed ledger before)
    (valid : ∀ handed ∈ key, ∃ signer, handed.toSigner = .ok signer) :
    Documented outcome ∧ signed.clock.Telling ∧ signed.peers = before.peers ∧
      Grows Happening.IsUnanswered before signed := by
  have calm := provisioner.opening_calms opens placed.on
  obtain ⟨ledger', on⟩ := calm.chain
  obtain ⟨material, made⟩ := placed.made
  obtain ⟨documented, waits⟩ := Authorization.documented_ensure signs made on valid placed.patient
    (opening_number opens placed) (by rw [calm.clock]; exact placed.telling)
  refine ⟨documented, ?_, waits.peers.trans calm.peers, calm.journal.trans waits.journal⟩
  rcases waits.clock with same | later
  · rw [same, calm.clock]
    exact placed.telling
  · rw [later, calm.clock]
    exact placed.late

/-- A run on the custody account's ledger, whose requests are all answered, keeps to the
failures that are documented for it exactly if every name that was answered was a text. -/
theorem run_ended {outcome : Except Failure Provisioned}
    (ran : Runs (provisioner.run key (.str text)) before outcome after)
    (placed : provisioner.Placed ledger before) (answered : provisioner.Answered before)
    (valid : ∀ handed ∈ key, ∃ signer, handed.toSigner = .ok signer) :
    Ended provisioner.authority before after outcome := by
  have quiet {before after : Session} (grows : Grows Happening.IsUnanswered before after) :
      Grows provisioner.authority.TellsText before after :=
    grows.mono NamingAuthority.tellsText_of_unanswered
  cases run_course ran with
  | atAccount opens =>
    exact .documented (documented_opening opens placed.on placed.own).failed
      (quiet (provisioner.opening_calms opens placed.on).journal)
  | atSigner opens signs =>
    obtain ⟨documented, -, -, unanswered⟩ := signer_documented opens signs placed valid
    exact .documented documented.failed (quiet unanswered)
  | past opens signs late =>
    obtain ⟨-, telling, peers, unanswered⟩ := signer_documented opens signs placed valid
    have answered : provisioner.Answered _ :=
      ⟨by rw [peers]; exact answered.answers, answered.looksAt, answered.claimsAt,
        answered.submitsAt⟩
    refine Ended.after_texts ?_ (late_ended late placed.made answered telling)
    exact quiet unanswered

end Provisioner

end Provisioning
