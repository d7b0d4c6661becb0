import Provisioning.Proofs.Run.Stages
import Provisioning.Proofs.Run.Unhindered

/-!
# What reaches the hub

Whatever a run submits to the hub is a message of the owner's account, signed by the
signer of the run, at a time when the ledger knows both
(`Provisioner.submission_authorized`): no submission comes before the signer is
authorized, and no transaction comes after it.
-/

namespace Provisioning

open Session Contract

/-! ## Requests that are no submissions -/

/-- A request that submits a message to the hub. -/
def Happening.IsSubmission (hub : Hub) : Happening → Prop
  | .requested request _ => hub.IsSubmission request
  | _ => False

/-- Texts whose ends are not the end of each other differ. -/
theorem append_ne_of_not_suffix {left right left' right' : String}
    (apart : ¬right.toList <:+ right'.toList) (apart' : ¬right'.toList <:+ right.toList) :
    left ++ right ≠ left' ++ right' := by
  intro same
  have ends : right.toList <:+ (left ++ right).toList := by
    rw [String.toList_append]
    exact List.suffix_append _ _
  have ends' : right'.toList <:+ (left ++ right).toList := by
    rw [same, String.toList_append]
    exact List.suffix_append _ _
  rcases List.suffix_or_suffix_of_suffix ends ends' with inside | inside
  · exact apart inside
  · exact apart' inside

theorem Authorization.IsSettling.not_submission {hub : Hub} {request : Http.Request}
    (settling : Authorization.IsSettling hub request) : ¬hub.IsSubmission request := by
  intro submission
  obtain ⟨isPost, isUrl⟩ := submission
  rcases settling with ⟨isGet, -⟩ | ⟨-, isRetry⟩
  · rw [isGet] at isPost
    exact absurd isPost (by decide)
  · rw [isRetry] at isUrl
    exact append_ne_of_not_suffix (by decide) (by decide) isUrl

theorem NamingAuthority.IsAsked.not_submission {authority : NamingAuthority} {hub : Hub}
    {request : Http.Request} (asked : authority.IsAsked request) : ¬hub.IsSubmission request := by
  intro submission
  obtain ⟨isPost, isUrl⟩ := submission
  rcases asked with ⟨isGet, -⟩ | ⟨-, isClaim⟩
  · rw [isGet] at isPost
    exact absurd isPost (by decide)
  · rw [isClaim] at isUrl
    exact append_ne_of_not_suffix (by decide) (by decide) isUrl

section Quiet

variable {fits : Http.Request → Prop} {hub : Hub} {before after : Session} {ledger : Ledger}

theorem Extends.no_submission (talk : Extends fits before after)
    (others : ∀ request, fits request → ¬hub.IsSubmission request) :
    Grows (fun happening => ¬happening.IsSubmission hub) before after := by
  refine talk.journal.mono ?_
  intro happening isTalk submission
  cases happening with
  | requested request path => exact others request isTalk submission
  | noted | slept | sent | confirmed | answered | called | printed => exact submission.elim

theorem Reverts.no_submission (reverts : Reverts ledger before after) :
    Grows (fun happening => ¬happening.IsSubmission hub) before after := by
  obtain ⟨ready, transaction, talk, rfl⟩ := reverts
  refine (talk.no_submission fun _ none => none.elim).trans ⟨_, rfl, ?_⟩
  simp [Happening.IsSubmission]

theorem Confirms.no_submission {contract function : String}
    (confirms : Confirms fits contract function ledger before after)
    (others : ∀ request, fits request → ¬hub.IsSubmission request) :
    Grows (fun happening => ¬happening.IsSubmission hub) before after := by
  obtain ⟨ready, transaction, receipt, talk, rest⟩ := confirms
  have sent : Grows (fun happening => ¬happening.IsSubmission hub) ready
      (ready.sending ledger [.sent transaction, .confirmed contract function receipt]) :=
    ⟨_, rfl, by simp [Happening.IsSubmission]⟩
  exact ((talk.no_submission fun _ none => none.elim).trans sent).trans
    (rest.no_submission others)

end Quiet

namespace Account

theorem Ensured.no_submission {hub : Hub} {before after : Session} {ledger : Ledger}
    {owner : String} {outcome : Except Failure Int}
    (ensured : Ensured ledger owner before after outcome) :
    Grows (fun happening => ¬happening.IsSubmission hub) before after := by
  cases ensured with
  | known registered talk => exact talk.no_submission fun _ none => none.elim
  | refused unregistered talk => exact talk.no_submission fun _ none => none.elim
  | reverted unregistered same reverts => exact reverts.no_submission
  | registered unregistered address keys account confirms =>
    exact confirms.no_submission fun _ none => none.elim

end Account

namespace Authorization

theorem ensure_no_submission {settings : Settings} {custody : CustodySigner} {hub : Hub}
    {number : Int} {owner : String} {key : Option SigningKey} {before after : Session}
    {ledger : Ledger} {outcome : Except Failure DelegatedSigner}
    (run : Runs (ensure settings custody hub (.int number) owner key) before outcome after)
    (on : before.chain = .ledger ledger) :
    Grows (fun happening => ¬happening.IsSubmission hub) before after := by
  cases key with
  | some key => exact (ensure_some_inv run on).1.no_submission fun _ none => none.elim
  | none =>
    cases ensure_none_inv run on with
    | refused talk => exact talk.no_submission fun _ none => none.elim
    | reverted same reverts => exact reverts.no_submission
    | bound registered address accounts added talk noted settles =>
      exact (confirms_of_settles talk noted settles).no_submission fun _ settling =>
        settling.not_submission

end Authorization

/-! ## Submissions of a run -/

namespace Provisioner

variable {provisioner : Provisioner} {key : Option SigningKey} {text : Json}
variable {before after : Session} {ledger : Ledger}

/-- A happening that none of the first had is among the rest, and what stands behind it
there stands behind it in all. -/
theorem split_of_not_mem {early late front back : List Happening} {happening : Happening}
    (split : early ++ late = front ++ happening :: back) (absent : happening ∉ early) :
    ∃ between, late = between ++ happening :: back := by
  rcases List.append_eq_append_iff.mp split with ⟨more, -, isLate⟩ | ⟨more, isEarly, isRest⟩
  · exact ⟨more, isLate⟩
  · cases more with
    | nil => exact ⟨[], isRest.symm⟩
    | cons first others =>
      obtain ⟨rfl, -⟩ := List.cons.inj isRest
      exact absurd (isEarly ▸ List.mem_append_right _ List.mem_cons_self) absent

/-- Every submission of a run is a message that the owner's account may publish: it is
read back from the body, belongs to the account that the ledger has for the owner, to the
network of the settings and to the signer that was kept, and no transaction comes behind
it. The ledger has bound the key, unless a key was handed in and not to be looked up. The
message carries the signer's signature of the hash of its content, so it verifies if that is
accepted. -/
theorem submission_authorized {outcome : Except Failure Provisioned}
    (ran : Runs (provisioner.run key text) before outcome after)
    (on : before.chain = .ledger ledger)
    (own : Text.lower provisioner.custody.address = Text.lower ledger.address)
    (positive : 1 ≤ ledger.nextAccount) {front back : List Happening} {request : Http.Request}
    {path : String}
    (posted : after.journal = before.journal ++ front ++ .requested request path :: back)
    (submission : provisioner.hub.IsSubmission request) :
    ∃ message ledger' number signer,
      (Message.readData request.body).bind Message.ofDocument = .ok message ∧
      after.chain = .ledger ledger' ∧ (∀ transaction, .sent transaction ∉ back) ∧
      after.kept = some signer ∧
      message.data.account = .int number ∧ number ≠ 0 ∧
      number = ledger'.accountOf provisioner.custody.address ∧
      message.data.network.code = provisioner.settings.network.code ∧
      message.signer = signer.publicKey ∧
      (key = none ∨ provisioner.settings.verifiesSuppliedKey = true →
        ledger'.keyState number signer.publicKey = .added) ∧
      message.hash = Message.contentHash message.data.encode ∧
      message.signature = Ed25519.sign signer.seed message.hash ∧
      (Ed25519.Accepts signer.seed message.hash → message.verify = true) := by
  -- A stretch of the run without submissions does not hold the request.
  have absent {middle : Session} (quiet : Grows
      (fun happening => ¬happening.IsSubmission provisioner.hub) before middle) :
      ∃ new, middle.journal = before.journal ++ new ∧ .requested request path ∉ new := by
    obtain ⟨new, journal, all⟩ := quiet
    exact ⟨new, journal, fun member => all _ member submission⟩
  have stopped (quiet : Grows (fun happening => ¬happening.IsSubmission provisioner.hub)
      before after) : False := by
    obtain ⟨new, journal, none⟩ := absent quiet
    rw [posted, List.append_assoc] at journal
    rw [← List.append_cancel_left journal] at none
    exact none (by simp)
  cases run_inv ran with
  | atAccount opens => exact (stopped (opening_inv opens on own).no_submission).elim
  | atSigner opens signer =>
    have ensured := opening_inv opens on own
    obtain ⟨-, opened, onOpened, -, -⟩ := ensured.ok_inv on fun _ => positive
    exact (stopped (ensured.no_submission.trans
      (Authorization.ensure_no_submission signer onOpened))).elim
  | @past _ number taken _ _ opens signer late =>
    have ensured := opening_inv opens on own
    obtain ⟨nonzero, opened, onOpened, address, isNumber⟩ := ensured.ok_inv on fun _ => positive
    have ownOpened : opened.accountOf opened.address = number := by
      rw [address, Ledger.accountOf, ← own]
      exact isNumber
    obtain ⟨ledger', onSigned, accounts, added⟩ :=
      Authorization.ensure_ok_inv signer onOpened ownOpened
    obtain ⟨early, journal, none⟩ := absent (ensured.no_submission.trans
      (Authorization.ensure_no_submission signer onOpened))
    obtain ⟨new, journal', allTalk⟩ := late.journal
    have split : early ++ new = front ++ .requested request path :: back := by
      rw [journal', List.append_assoc] at posted
      simp only [journal, List.append_assoc] at posted
      exact List.append_cancel_left posted
    obtain ⟨between, isNew⟩ := split_of_not_mem split none
    rcases allTalk _ (isNew ▸ List.mem_append_right _ List.mem_cons_self) with
      asked | ⟨body, made, submits⟩
    · exact absurd submission asked.not_submission
    · obtain ⟨message, read, isAccount, -, isNetwork, isSigner, isHash, isSignature, verifies⟩ :=
        submits.read made.typed
      refine ⟨message, ledger', number, taken, read, late.chain.trans onSigned, ?_, late.kept,
        isAccount, nonzero, ?_, isNetwork, isSigner, added, isHash, isSignature, verifies⟩
      · intro transaction member
        exact allTalk _ (isNew ▸ List.mem_append_right _ (List.mem_cons_of_mem _ member))
      · rw [Ledger.accountOf, accounts]
        exact isNumber.symm

/-! ### A run that submits -/

/-- The custody signer of the least secret, whose key needs no time to settle. -/
def sample : Provisioner where
  settings := { Settings.ofEndpoints "http://chain" "01" "http://hub" with
    settleSeconds := Binary64.zero }
  custody := Authorization.leastCustody
  hub := ⟨"http://hub", none⟩
  authority := ⟨"http://names"⟩

theorem sample_unhindered : sample.Unhindered where
  made := ⟨_, Authorization.ofKey_leastSecret⟩
  trusting := rfl
  patient := rfl
  atOnce := by decide
  known := rfl
  looksAt := rfl
  claimsAt := rfl
  submitsAt := rfl

/-- The owner has an account, and whatever is sent is accepted. -/
def sampleSession : Session where
  clock := Clock.ofStart (Binary64.ofInt 1700000000)
  seeds := [List.replicate 32 1]
  generated := 0
  chain := .ledger Authorization.ownedLedger
  peers := Peers.accepting
  journal := []
  kept := none

/-- The signer with the next seed, once it is authorized. -/
def sampleSigner : DelegatedSigner := (Authorization.freshSigner sampleSession).mark .active

/-- The name that is claimed for the account, as its profile is to have it. -/
def sampleUpdate : MessageData :=
  ⟨.userDataAdd, .int 7, .int 90540800, .mainnet, .profile .username (.str "fid-7")⟩

/-- The canonical text of the update. -/
def sampleText : String :=
  "\x7b\"fid\":7,\"network\":1,\"timestamp\":90540800,\"type\":11," ++
    "\"userDataBody\":\x7b\"type\":6,\"value\":\"fid-7\"\x7d\x7d"

def sampleHash : Bytes :=
  [165, 15, 31, 152, 158, 249, 118, 104, 24, 27, 131, 47, 12, 237, 219, 203, 123, 91, 84, 32]

theorem contentHash_sampleUpdate : Message.contentHash sampleUpdate.encode = sampleHash := by
  have sorted : sampleUpdate.toDocument.sortKeys =
      .obj [("fid", .int 7), ("network", .int 1), ("timestamp", .int 90540800), ("type", .int 11),
        ("userDataBody", .obj [("type", .int 6), ("value", .str "fid-7")])] := by
    simp [sampleUpdate, MessageData.toDocument, Body.toDocument, Body.key, Json.sortKeys,
      Json.sortFields, List.mergeSort, List.MergeSort.Internal.splitInTwo, MessageType.code,
      Network.code, ProfileField.code]
  have encoded : sampleUpdate.encode = Utf8.encode sampleText := by
    rw [MessageData.encode, Json.canonical, Json.canonicalChars, sorted]
    decide +kernel
  rw [encoded]
  decide +kernel

theorem accepts_sampleHash : Ed25519.Accepts sampleSigner.seed sampleHash := by
  show Ed25519.verify (Ed25519.publicKey (List.replicate 32 1)) sampleHash
    (Ed25519.sign (List.replicate 32 1) sampleHash) = true
  decide +kernel

/-- A run that binds a key and claims a name submits the update as the first of two
messages. -/
theorem sample_performs :
    ∃ publications moves request response peers ledger,
      Performs (sample.run none (.str "hi")) sampleSession
        (.ok ⟨7, sample.custody.address, sampleSigner, .str "fid-7", publications⟩) moves
        { sampleSession.nextSeed.2 with chain := .ledger ledger, kept := some sampleSigner, peers } ∧
      .exchange request "/v1/submitMessage" (some response) ∈ moves ∧
      sample.hub.IsSubmission request ∧
      request.body = (Message.sign sampleUpdate sampleSigner).toWire := by
  have time : sampleSession.clock.time.truncate? = some 1700000000 := by decide +kernel
  have telling : sampleSession.clock.unix = .ok 1700000000 := by
    rw [Clock.unix, Json.toInt, time]
  have owns : Authorization.ownedLedger.accountOf sample.custody.address = 7 :=
    Ledger.accountOf_setAccount _ _ _
  have opens : Performs sample.opening sampleSession (.ok 7) [] sampleSession :=
    .note_bind (Account.ensure_registered_performs _ rfl owns (by decide))
  have unbound : Authorization.ownedLedger.keyState 7
      (Authorization.freshSigner sampleSession).publicKey ≠ .added := by
    rintro ⟨⟩
  obtain ⟨sent, receipt, -, -, authorizes⟩ := @Authorization.ensure_none_performs sampleSession
    Authorization.ownedLedger sample.settings sample.custody sample.hub _ 7 1700000000
    Authorization.ofKey_leastSecret rfl owns (by decide) rfl unbound rfl sample_unhindered.atOnce
    telling (by decide)
  let ledger := Authorization.ownedLedger.binding 7
    (Authorization.freshSigner sampleSession).publicKey sent
  let signed : Session :=
    { sampleSession.nextSeed.2 with chain := .ledger ledger, kept := some sampleSigner }
  have isName : NamingAuthority.fallbackName (.int 7) = "fid-7" := by decide +kernel
  obtain ⟨looking, claiming, claimed, peers, -, -, -, accepts, names⟩ :=
    @NamingAuthority.ensure_performs signed sample.authority sample.custody _ 7 1700000000
      Authorization.ofKey_leastSecret ⟨rfl, rfl⟩ rfl rfl rfl telling (by decide)
  rw [isName] at names
  have accepts : ({ signed with peers } : Session).peers.Accepts := accepts
  obtain ⟨request, response, update, isPost, isBody, -, updates⟩ :=
    @Publication.publish_performs { signed with peers } sample.hub sampleSigner
      sampleUpdate.body 7 1700000000 .mainnet accepts rfl (by decide) rfl rfl telling (by decide)
  obtain ⟨posts, submissions, -, -, publishes⟩ :=
    @publishAll_performs { signed with peers } sample sampleSigner 7 1700000000
      sample_unhindered accepts rfl (by decide) telling (by decide)
      [.post (.str "hi") [] [] [] .null]
  have made : bodies (.str "fid-7") (.str "hi") =
      .ok [sampleUpdate.body, .post (.str "hi") [] [] [] .null] := by rfl
  refine ⟨update :: posts, _, request, response, peers, ledger,
    run_of_bodies opens authorizes names made (updates.bind (publishes.bind_quiet (.pure _))), ?_,
    isPost, isBody⟩
  simp

theorem sampleRun_authorized :
    ∃ outcome after front back request path message ledger, ∃ signer : DelegatedSigner,
      Runs (sample.run none (.str "hi")) sampleSession (.ok outcome) after ∧
      after.journal = sampleSession.journal ++ front ++ .requested request path :: back ∧
      sample.hub.IsSubmission request ∧
      (Message.readData request.body).bind Message.ofDocument = .ok message ∧
      after.chain = .ledger ledger ∧ (∀ transaction, .sent transaction ∉ back) ∧
      after.kept = some signer ∧
      message.data.account = .int (ledger.accountOf sample.custody.address) ∧
      message.data.account = .int 7 ∧ message.data.network = .mainnet ∧
      message.signer = signer.publicKey ∧
      ledger.keyState (ledger.accountOf sample.custody.address) signer.publicKey = .added ∧
      message.signature = Ed25519.sign signer.seed message.hash ∧ message.verify = true := by
  obtain ⟨publications, moves, request, response, peers, ledger, performs, member, submission,
    isBody⟩ := sample_performs
  obtain ⟨journal, ran, new, isJournal, isTrace⟩ := performs.runs
  have posted : .requested request "/v1/submitMessage" ∈ new := by
    refine (List.mem_filter.mp (isTrace ▸ List.mem_flatMap.mpr ⟨_, member, ?_⟩)).1
    exact List.mem_cons_self
  obtain ⟨front, back, split⟩ := List.append_of_mem posted
  rw [split, ← List.append_assoc] at isJournal
  have own : Text.lower sample.custody.address = Text.lower Authorization.ownedLedger.address := rfl
  obtain ⟨message, ledger', number, signer, read, chain, silent, kept, account, -, isNumber, -,
    isSigner, added, -, isSignature, verifies⟩ :=
    submission_authorized ran rfl own (by decide) isJournal submission
  subst isNumber
  have isKept : signer = sampleSigner := (Option.some.inj kept).symm
  have typed : sampleUpdate.Typed :=
    MessageData.typed_of_body (.profile rfl "fid-7") rfl 7 90540800
  have isMessage : message = (Message.sign sampleUpdate sampleSigner).recovered := by
    rw [isBody, Message.read_toWire (Message.sign_faithful typed sampleSigner)] at read
    exact (Except.ok.inj read).symm
  have isHash : message.hash = sampleHash := by
    rw [isMessage]
    exact contentHash_sampleUpdate
  have accepts : Ed25519.Accepts signer.seed message.hash := by
    rw [isKept, isHash]
    exact accepts_sampleHash
  exact ⟨_, _, front, back, request, _, message, ledger', signer, ran, isJournal, submission, read,
    chain, silent, kept, account, by rw [isMessage]; rfl, by rw [isMessage]; rfl, isSigner,
    added (.inl rfl), isSignature, verifies accepts⟩

end Provisioner

end Provisioning
