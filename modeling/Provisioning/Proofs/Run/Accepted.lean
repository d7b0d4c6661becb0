import Provisioning.Proofs.Json.RoundTrip
import Provisioning.Proofs.Run.RequestedKey
import Provisioning.Proofs.Run.SingleSubmission
import Provisioning.Proofs.Run.StageMoves
import Provisioning.Proofs.Session.Performs
import Provisioning.Proofs.Signer.NameProof

/-!
# Stages that go through

What each stage performs if nothing stands in its way. An owner who can pay gets an account
(`Account.ensure_performs`), a signer that is handed in is taken
(`Authorization.ensure_some_performs`), a fresh one is bound to the account
(`Authorization.ensure_none_performs`), a name is looked for and claimed
(`NamingAuthority.ensure_performs`), and a body is submitted (`Publication.publish_performs`),
the last two with peers that accept everything (`Peers.Accepts`). Whether a text makes a post
is a matter of its length alone (`Body.newPost_of_postable`, `Body.newPost_of_not_postable`).
-/

namespace Provisioning

open Contract Session

variable {before : Session} {ledger : Ledger}

/-! ## The account -/

namespace Account

theorem register_performs {owner recovery : String} (on : before.chain = .ledger ledger)
    (emits : ledger.emitsEvents = true)
    (unprepared : Ledger.lookup ("IdGateway", "register") ledger.failures = none)
    (unregistered : ledger.accountOf ledger.address = 0)
    (funded : ledger.price ≤ ledger.balanceOf ledger.address) :
    ∃ sent receipt, sent.contract = "IdGateway" ∧ sent.function = "register" ∧
      Performs (register owner recovery ledger.price) before (.ok ledger.nextAccount)
        [.call sent (some receipt)] { before with chain := .ledger (ledger.registering sent) } := by
  obtain ⟨receipt, -, logs, called⟩ := Ledger.transact_register_ok before.clock.unix (.str recovery)
    unprepared unregistered funded
  refine ⟨_, receipt, rfl, rfl, .note_bind (.bind_quiet (.transact on called) ?_)⟩
  rw [Chain.decodeEvents, logs, if_pos emits]
  refine .quiet_bind (.pure _) ?_
  rw [registration?_registration]
  exact .require_bind rfl (.note_bind (.pure _))

/-- An owner who has an account keeps it. -/
theorem ensure_registered_performs {owner : String} {fid : Int} (recovery : Option String)
    (on : before.chain = .ledger ledger) (own : ledger.accountOf owner = fid) (some : fid ≠ 0) :
    Performs (ensure owner recovery) before (.ok fid) [] before := by
  have looks : ledger.read "IdRegistry" "idOf" [.str owner] = .ok (.int fid) := by
    rw [← own]
    rfl
  refine .quiet_bind (.quiet_bind (.read on looks) (.require_bind rfl (.pure _))) ?_
  rw [if_pos some]
  exact .note_bind (.pure _)

/-- An owner who has no account and can pay for one gets the next one. -/
theorem ensure_performs {owner : String} (recovery : Option String)
    (on : before.chain = .ledger ledger) (own : owner = ledger.address)
    (emits : ledger.emitsEvents = true)
    (unprepared : Ledger.lookup ("IdGateway", "register") ledger.failures = none)
    (unregistered : ledger.accountOf ledger.address = 0)
    (funded : ledger.price ≤ ledger.balanceOf ledger.address)
    (held : ledger.balanceOf ledger.address ≠ 0) :
    ∃ sent receipt, sent.contract = "IdGateway" ∧ sent.function = "register" ∧
      Performs (ensure owner recovery) before (.ok ledger.nextAccount)
        [.call sent (some receipt)] { before with chain := .ledger (ledger.registering sent) } := by
  subst own
  have looks : ledger.read "IdRegistry" "idOf" [.str ledger.address] =
      .ok (.int (ledger.accountOf ledger.address)) := rfl
  have prices : ledger.read "IdGateway" "price" [] = .ok (.int ledger.price) := rfl
  have address : before.chain.address = ledger.address := by rw [on]; rfl
  obtain ⟨sent, receipt, isContract, isFunction, registers⟩ :=
    @register_performs before ledger ledger.address
      ((recovery.filter (· ≠ "")).getD ledger.address) on emits unprepared unregistered funded
  refine ⟨sent, receipt, isContract, isFunction, ?_⟩
  refine .quiet_bind (.quiet_bind (.read on looks) (.require_bind rfl (.pure _))) ?_
  rw [if_neg (not_not_intro unregistered)]
  refine .get_bind fun _ => ?_
  rw [if_neg (by rw [address]; exact not_not_intro rfl)]
  refine .quiet_bind (.read on prices) (.require_bind rfl (.quiet_bind (.balanceOf on) ?_))
  rw [if_neg held, if_neg (Int.not_lt.mpr funded)]
  exact registers

end Account

/-! ## The signer -/

namespace Authorization

variable {settings : Settings} {custody : CustodySigner} {hub : Hub} {owner : String}

/-- A signer that is handed in is taken, unless the settings ask for a look into the
registry. -/
theorem ensure_some_performs {account : Json} {key : SigningKey} {signer : DelegatedSigner}
    (trusting : settings.verifiesSuppliedKey = false) (isSigner : key.toSigner = .ok signer) :
    Performs (ensure settings custody hub account owner (some key)) before
      (.ok (signer.mark .active)) [] before := by
  refine .require_bind isSigner ?_
  unfold adopt
  rw [trusting]
  exact .note_bind (.pure _)

theorem generateSigner_performs :
    Performs generateSigner before (.ok (freshSigner before)) [] before.nextSeed.2 := by
  refine .of_steady fun journal => ?_
  have fresh : Session.nextSeed { before with journal } =
      (before.nextSeed.1, { before.nextSeed.2 with journal }) := by
    unfold nextSeed
    cases before.seeds <;> rfl
  have run : Runs generateSigner { before with journal }
      (.ok (.ofSeed (Session.nextSeed { before with journal }).1 .unregistered))
      (Session.nextSeed { before with journal }).2 := rfl
  rw [fresh] at run
  exact run

theorem signedMetadata_performs {account : Json} {key metadata : Bytes} {now : Int}
    (telling : before.clock.unix = .ok now) (signs : Signs custody account key now metadata) :
    Performs (signedMetadata custody account key) before (.ok metadata) [] before := by
  obtain ⟨signature, signed, encoded⟩ := signs
  refine .unixTime_bind telling (.require_bind signed ?_)
  rw [encoded]
  exact .pure _

theorem settle_performs {account : Json} {key : Bytes} (patient : settings.pollsVisibility = false)
    (atOnce : Binary64.zero.lt settings.settleSeconds = false) :
    Performs (settle settings hub account key) before (.ok ⟨⟩) [] before := by
  have unseen : isVisible settings hub account key = pure false := by
    simp [isVisible, patient]
  rw [settle, unseen]
  refine .quiet_bind (.pure false) ?_
  simp only [Bool.false_eq_true, if_false, atOnce]
  exact .pure _

/-- A fresh key is bound to the account of the address, and handed out at once. -/
theorem ensure_none_performs {material : Arg} {fid now : Int}
    (made : CustodySigner.ofKey material = .ok custody) (on : before.chain = .ledger ledger)
    (own : ledger.accountOf ledger.address = fid) (isAccount : 1 ≤ fid ∧ fid < 2 ^ 256)
    (unprepared : Ledger.lookup ("KeyGateway", "add") ledger.failures = none)
    (unbound : ledger.keyState fid (freshSigner before).publicKey ≠ .added)
    (patient : settings.pollsVisibility = false)
    (atOnce : Binary64.zero.lt settings.settleSeconds = false)
    (telling : before.clock.unix = .ok now) (isNow : 0 ≤ now ∧ now < 2 ^ 64) :
    ∃ sent receipt, sent.contract = "KeyGateway" ∧ sent.function = "add" ∧
      Performs (ensure settings custody hub (.int fid) custody.address none) before
        (.ok ((freshSigner before).mark .active)) [.call sent (some receipt)]
        { before.nextSeed.2 with
          chain := .ledger (ledger.binding fid (freshSigner before).publicKey sent) } := by
  have isDeadline : 0 ≤ now + requestLifetime ∧ now + requestLifetime < 2 ^ 256 := by
    unfold requestLifetime
    omega
  obtain ⟨metadata, signature, hash, signed, encoded, request⟩ := KeyRequest.exists_request made
    (freshSigner before).publicKey ⟨by omega, isAccount.2⟩ isDeadline
  have early : now ≤ now + requestLifetime := by
    unfold requestLifetime
    omega
  obtain ⟨receipt, called⟩ := Ledger.transact_add_bound unprepared request.decoded own (by omega)
    request.signature_ne_nil early unbound
  have onFresh : before.nextSeed.2.chain = .ledger ledger := (chain_nextSeed before).trans on
  have tellingFresh : before.nextSeed.2.clock.unix = .ok now := by rw [clock_nextSeed, telling]
  rw [← tellingFresh] at called
  refine ⟨ledger.addition (freshSigner before).publicKey metadata, receipt, rfl, rfl, ?_⟩
  refine .quiet_bind generateSigner_performs ?_
  rw [if_neg (not_not_intro rfl)]
  refine .quiet_bind (signedMetadata_performs tellingFresh ⟨signature, signed, encoded⟩) ?_
  refine .note_bind (.bind_quiet (.tryCatch_ok (.transact onFresh called)) ?_)
  exact .note_bind (.quiet_bind (settle_performs patient atOnce) (.pure _))

end Authorization

/-! ## Peers that accept everything -/

namespace Peers

/-- Routes that always give the same answer stay as they are. -/
theorem takeRoute_of_single (method path : String) {routes : List Route}
    (single : ∀ route ∈ routes, ∃ answer, route.answers = [answer]) :
    (takeRoute method path routes).2 = routes := by
  induction routes with
  | nil => rfl
  | cons route rest ih =>
    obtain ⟨⟨answer, isAnswer⟩, others⟩ := List.forall_mem_cons.mp single
    unfold takeRoute
    split
    · show { route with answers := Script.afterFirst route.answers } :: rest = route :: rest
      rw [isAnswer, Script.afterFirst, ← isAnswer]
    · exact congrArg (route :: ·) (ih others)

/-- The peers answer as those that accept everything, whatever names they know. -/
structure Accepts (peers : Peers) : Prop where
  queue : peers.queue = []
  routes : peers.routes = Peers.accepting.routes

/-- Peers that accept everything do not change by being asked. -/
theorem Accepts.take {peers : Peers} (accepts : peers.Accepts) (method path : String) :
    peers.take method path = ((takeRoute method path accepting.routes).1, peers) := by
  have kept : (takeRoute method path accepting.routes).2 = accepting.routes :=
    takeRoute_of_single method path (by simp [accepting])
  unfold Peers.take
  rw [accepts.queue]
  simp only [accepts.routes, kept]
  rw [← accepts.routes, ← accepts.queue]

end Peers

/-! ## The name -/

namespace NamingAuthority

variable {authority : NamingAuthority} {custody : CustodySigner} {owner : String}

theorem lookup_performs {account : Json} (accepts : before.peers.Accepts)
    (hasPath : Http.Location.path (authority.base ++ "/transfers/current") =
      .ok "/transfers/current")
    (unnamed : Json.find? account.text before.peers.openNames = none) :
    ∃ request, authority.IsLookup account request ∧
      Performs (authority.lookup account) before (.ok none)
        [.exchange request "/transfers/current" (some ⟨404, [], []⟩)] before := by
  have served : before.peers.serve before.chain.keys .openCurrentName
      ⟨"GET", authority.base ++ "/transfers/current", [("fid", account.text)], [], []⟩ =
      .ok (⟨404, [], []⟩, before.peers) := by
    simp [Peers.serve, Peers.openCurrentName, Ledger.lookup, unnamed]
  exact ⟨_, ⟨rfl, rfl, rfl⟩, .bind_quiet (.exchange hasPath (accepts.take _ _) served) (.pure _)⟩

/-- An authority that accepts everything records the name of a claim, and says so. -/
theorem openClaimName_transfer {peers : Peers} {request : Http.Request} {fid timestamp : Int}
    {name : String} {signature : Bytes} (accepts : peers.Accepts)
    (isBody : request.body = (transfer (.int fid) owner name timestamp signature).plainBytes) :
    ∃ response peers', response.ok = true ∧ peers'.Accepts ∧
      peers.openClaimName request = .ok (response, peers') := by
  have regular : (transfer (.int fid) owner name timestamp signature).Regular := by
    simp [transfer, Json.Regular, Json.RegularFields, Json.keysOf]
  have read : Peers.readBody request =
      .ok (transfer (.int fid) owner name timestamp signature) := by
    rw [Peers.readBody, Message.readData, isBody, Json.readBytes_plainBytes regular]
  refine ⟨.ofJson 200 (.obj [("transfer", transfer (.int fid) owner name timestamp signature)]),
    { peers with openNames := Json.put (Json.int fid).text (.str name) peers.openNames }, rfl,
    ⟨accepts.queue, accepts.routes⟩, ?_⟩
  rw [Peers.openClaimName, read]
  rfl

theorem claim_performs {material : Arg} {fid now : Int}
    (made : CustodySigner.ofKey material = .ok custody) (accepts : before.peers.Accepts)
    (hasPath : Http.Location.path (authority.base ++ "/transfers") = .ok "/transfers")
    (telling : before.clock.unix = .ok now) (isNow : 0 ≤ now ∧ now < 2 ^ 64) :
    ∃ request response peers, authority.IsClaim request ∧ response.ok = true ∧ peers.Accepts ∧
      Performs (authority.claim custody (.int fid) custody.address) before
        (.ok (fallbackName (.int fid))) [.exchange request "/transfers" (some response)]
        { before with peers } := by
  have isTime : 0 ≤ now ∧ now < 2 ^ 256 := by omega
  obtain ⟨signature, -, signed, -⟩ :=
    UsernameProof.exists_proof made (fallbackName (.int fid)) isTime rfl
  obtain ⟨response, peers, success, accepts', served⟩ := @openClaimName_transfer custody.address _
    ⟨"POST", authority.base ++ "/transfers", [], [("Content-Type", "application/json")],
      (transfer (.int fid) custody.address (fallbackName (.int fid)) now signature).plainBytes⟩
    fid now _ signature accepts rfl
  refine ⟨_, response, peers, ⟨rfl, rfl⟩, success, accepts', .unixTime_bind telling
    (.require_bind signed (.note_bind (.bind_quiet
      (.exchange hasPath (accepts.take _ _) served) ?_)))⟩
  rw [success]
  exact .note_bind (.pure _)

/-- An account without a name gets the one made from its number: one lookup, one claim. -/
theorem ensure_performs {material : Arg} {fid now : Int}
    (made : CustodySigner.ofKey material = .ok custody) (accepts : before.peers.Accepts)
    (unnamed : Json.find? (Json.int fid).text before.peers.openNames = none)
    (looksAt : Http.Location.path (authority.base ++ "/transfers/current") =
      .ok "/transfers/current")
    (claimsAt : Http.Location.path (authority.base ++ "/transfers") = .ok "/transfers")
    (telling : before.clock.unix = .ok now) (isNow : 0 ≤ now ∧ now < 2 ^ 64) :
    ∃ looking claiming response peers, authority.IsLookup (.int fid) looking ∧
      authority.IsClaim claiming ∧ response.ok = true ∧ peers.Accepts ∧
      Performs (authority.ensure custody (.int fid) custody.address) before
        (.ok (.str (fallbackName (.int fid))))
        [.exchange looking "/transfers/current" (some ⟨404, [], []⟩),
          .exchange claiming "/transfers" (some response)] { before with peers } := by
  obtain ⟨looking, isLookup, looks⟩ := lookup_performs accepts looksAt unnamed
  obtain ⟨claiming, response, peers, isClaim, success, accepts', claims⟩ :=
    claim_performs made accepts claimsAt telling isNow
  refine ⟨looking, claiming, response, peers, isLookup, isClaim, success, accepts',
    looks.bind ?_⟩
  show Performs (if Text.lower custody.address ≠ Text.lower custody.address then _ else _) _ _ _ _
  rw [if_neg (not_not_intro rfl)]
  exact claims.bind_quiet (.pure _)

end NamingAuthority

/-! ## Messages -/

namespace Publication

variable {hub : Hub} {signer : DelegatedSigner}

theorem compose_performs {body : Body} {fid now : Int} {network : Network}
    (active : signer.state = .active) (isAccount : 1 ≤ fid)
    (known : Network.ofCode? network.code = some network)
    (telling : before.clock.unix = .ok now) (since : NetworkTime.epoch ≤ now) :
    Performs (compose body (.int fid) (.int network.code) signer .null) before
      (.ok (Message.sign ⟨body.messageType, .int fid, .int (MessageData.timeOf none now), network,
        body⟩ signer)) [] before := by
  have built : MessageData.build body (.int fid) (.int network.code) .null (.ok now) =
      .ok ⟨body.messageType, .int fid, .int (MessageData.timeOf none now), network, body⟩ := by
    have cases := @MessageData.build_eq body fid network.code none (.ok now) now (fun _ => rfl)
    rw [if_neg (by omega), if_neg (by omega), known] at cases
    exact cases
  unfold compose
  rw [if_neg (by simp [DelegatedSigner.isActive, active])]
  refine .get_bind fun journal => ?_
  simp only [telling, built]
  exact .pure _

/-- A body is handed in once, as the message of the account at the time, and accepted. -/
theorem publish_performs (body : Body) {fid now : Int} {network : Network}
    (accepts : before.peers.Accepts) (active : signer.state = .active) (isAccount : 1 ≤ fid)
    (known : Network.ofCode? network.code = some network)
    (hasPath : Http.Location.path (hub.base ++ "/v1/submitMessage") = .ok "/v1/submitMessage")
    (telling : before.clock.unix = .ok now) (since : NetworkTime.epoch ≤ now) :
    ∃ request response publication, hub.IsSubmission request ∧
      request.body = (Message.sign ⟨body.messageType, .int fid,
        .int (MessageData.timeOf none now), network, body⟩ signer).toWire ∧
      response.ok = true ∧
      Performs (publish hub body (.int fid) (.int network.code) signer .null) before
        (.ok publication) [.exchange request "/v1/submitMessage" (some response)] before := by
  have composes :=
    @compose_performs before signer body fid now network active isAccount known telling since
  refine ⟨_, _, _, ⟨rfl, rfl⟩, rfl, ?_, .quiet_bind composes (.note_bind (.bind_quiet
    (.bind_quiet (.exchange hasPath (accepts.take _ _) rfl) (.pure _)) (.pure _)))⟩
  rfl

end Publication

/-! ## Posts -/

namespace Body

/-- A text that makes a post: from one to 320 bytes. -/
def Postable (text : String) : Prop :=
  1 ≤ (Utf8.encode text).length ∧ (Utf8.encode text).length ≤ 320

theorem newPost_text (text : String) :
    newPost (.str text) (.arr []) (.arr []) (.arr []) .null =
      if postLimit < (Utf8.encode text).length then .error (.refusal (.postTooLong postLimit))
      else if text = "" then .error (.refusal .postEmpty)
      else .ok (.post (.str text) [] [] [] .null) := by
  by_cases long : postLimit < (Utf8.encode text).length
  · simp [newPost, Json.asText, long, bind, Except.bind, throw, throwThe, MonadExceptOf.throw]
  by_cases isEmpty : text = ""
  · simp [newPost, Json.asText, isEmpty, Json.truthy, bind, Except.bind, throw, throwThe,
      MonadExceptOf.throw]
  · simp [newPost, Json.asText, long, isEmpty, Json.truthy, count, Json.items, embedLimit,
      mentionLimit, bind, Except.bind, pure, Except.pure, Except.map]

theorem newPost_of_postable {text : String} (fits : Postable text) :
    newPost (.str text) (.arr []) (.arr []) (.arr []) .null =
      .ok (.post (.str text) [] [] [] .null) := by
  have given : text ≠ "" := by
    rintro rfl
    exact absurd fits.1 (by decide)
  have short : ¬postLimit < (Utf8.encode text).length := Nat.not_lt.mpr fits.2
  rw [newPost_text, if_neg short, if_neg given]

theorem newPost_of_not_postable {text : String} (unfit : ¬Postable text) :
    ∃ refusal, newPost (.str text) (.arr []) (.arr []) (.arr []) .null =
      .error (.refusal refusal) := by
  rw [newPost_text]
  by_cases long : postLimit < (Utf8.encode text).length
  · exact ⟨_, if_pos long⟩
  · have none : Utf8.encode text = [] := by
      refine List.length_eq_zero_iff.mp (Nat.lt_one_iff.mp (Nat.not_le.mp fun nonempty => ?_))
      exact unfit ⟨nonempty, Nat.not_lt.mp long⟩
    rw [if_neg long, if_pos (Utf8.encode_eq_nil_iff.mp none)]
    exact ⟨_, rfl⟩

end Body

end Provisioning
