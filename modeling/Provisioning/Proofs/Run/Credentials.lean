import Provisioning.Proofs.Run.RequestedKey
import Provisioning.Proofs.Run.Submission
import Provisioning.Proofs.Session.Abreast

/-!
# Credentials of a run

The credentials of a hub reach nothing but the header that shows them to this hub. Two runs
that start from the same session with different credentials end in the same outcome and
leave the same session, up to that header, which stands on requests to the hub alone.
Each stage agrees with itself under other credentials, and so does a run. Main statement:
`Provisioner.run_veils_credentials`.
-/

namespace Provisioning

open Session

/-! ## Requests to the hub -/

/-- The requests that a hub gets. -/
def Hub.IsAsked (hub : Hub) (request : Http.Request) : Prop :=
  Authorization.IsSettling hub request ∨ hub.IsSubmission request

/-- What the hub is asked the naming authority is not, even at the same location. -/
theorem Hub.IsAsked.not_naming {hub : Hub} {authority : NamingAuthority} {request : Http.Request}
    (asked : hub.IsAsked request) : ¬authority.IsAsked request := by
  intro naming
  rcases asked with (⟨isGet, isUrl⟩ | ⟨isPost, isUrl⟩) | submission
  · rcases naming with ⟨-, isLookup⟩ | ⟨isPost, -⟩
    · exact append_ne_of_not_suffix (by decide) (by decide) (isUrl.symm.trans isLookup)
    · exact absurd (isGet.symm.trans isPost) (by decide)
  · rcases naming with ⟨isGet, -⟩ | ⟨-, isClaim⟩
    · exact absurd (isGet.symm.trans isPost) (by decide)
    · exact append_ne_of_not_suffix (by decide) (by decide) (isUrl.symm.trans isClaim)
  · exact naming.not_submission submission

/-! ## The stages under other credentials -/

/-- Settings with other credentials. -/
def Settings.withCredentials (settings : Settings) (credentials : Option String) : Settings :=
  { settings with hubCredentials := credentials }

/-- A hub that is shown other credentials. -/
def Hub.withCredentials (hub : Hub) (credentials : Option String) : Hub :=
  { hub with authorization := Credentials.header? credentials }

section Stages

variable (hub : Hub) (credentials : Option String)

namespace Hub

/-- Requests to a hub that differ in who they show to ask. -/
theorem twin {method url : String} {params : List (String × String)} {body : Bytes}
    (headers : List (String × String))
    (asked : ∀ headers, hub.IsAsked ⟨method, url, params, headers, body⟩) :
    Http.Request.Twin hub.IsAsked ⟨method, url, params, headers ++ hub.authHeaders, body⟩
      ⟨method, url, params, headers ++ (hub.withCredentials credentials).authHeaders, body⟩ := by
  refine ⟨?_, fun _ => asked _, fun _ => asked _⟩
  have veiled (hub : Hub) :
      hub.authHeaders.filter (fun header => header.1 != "Authorization") = [] := by
    unfold authHeaders
    split <;> simp
  simp only [Http.Request.veiled, List.filter_append, veiled]

theorem agree_keysOf (account : Json) : Agree hub.IsAsked
    (hub.keysOf account) ((hub.withCredentials credentials).keysOf account) := by
  refine .bind (.exchange (hub.twin credentials [] fun _ => .inl (.inl ⟨rfl, rfl⟩))) fun response => ?_
  exact .ite (.pure _) (.ite (.throw _) (.bind (.require _) fun _ => .require _))

theorem agree_retryEvents (account : Json) : Agree hub.IsAsked
    (hub.retryEvents account) ((hub.withCredentials credentials).retryEvents account) := by
  unfold retryEvents
  refine .guard ?_
  refine .bind (.exchange (hub.twin credentials [_] fun _ => .inl (.inr ⟨rfl, rfl⟩))) fun response => ?_
  exact .guard (.note _ _ _)

theorem agree_submit (message : Message) : Agree hub.IsAsked
    (hub.submit message) ((hub.withCredentials credentials).submit message) := by
  refine .bind (.exchange (hub.twin credentials [_] fun _ => .inr ⟨rfl, rfl⟩)) fun response => ?_
  exact .ite (.pure _) (.throw _)

end Hub

namespace Authorization

theorem agree_isAuthorized {may : Http.Request → Prop} (account : Json) (key : Bytes) :
    Agree may (isAuthorized account key) (isAuthorized account key) := by
  refine .bind (.read _ _ _) fun value => ?_
  split
  · exact .bind (.require _) fun _ => .pure _
  · exact .throw _

theorem agree_poll (account : Json) (key : Bytes) (timeout interval start : Binary64)
    (retries : Nat) : Agree hub.IsAsked
      (poll hub account key timeout interval start retries)
      (poll (hub.withCredentials credentials) account key timeout interval start retries) := by
  induction retries with
  | zero => exact .bind (hub.agree_keysOf credentials account) fun _ => .pure _
  | succ retries ih =>
    refine .bind (hub.agree_keysOf credentials account) fun keys => .ite (.pure _) (.get fun _ _ => ?_)
    exact .ite (.pure _) (.bind (.sleep _) fun _ => ih)

variable (settings : Settings)

theorem agree_isVisible (account : Json) (key : Bytes) : Agree hub.IsAsked
    (isVisible settings hub account key)
    (isVisible (settings.withCredentials credentials) (hub.withCredentials credentials) account key) := by
  have awaits : Agree hub.IsAsked
      (awaitVisible settings hub account key)
      (awaitVisible (settings.withCredentials credentials) (hub.withCredentials credentials) account key) := by
    refine .bind (.require _) fun count => .get fun _ _ => ?_
    refine .bind (agree_poll hub credentials account key _ _ _ count) fun seen => ?_
    exact .ite (.bind (.note _ _ _) fun _ => .pure _) (.pure _)
  have checks : Agree hub.IsAsked
      (checkVisible settings hub account key)
      (checkVisible (settings.withCredentials credentials) (hub.withCredentials credentials) account key) := by
    refine .bind awaits fun seen => .ite (.pure _) (.bind (.note _ _ _) fun _ => ?_)
    exact .bind (hub.agree_retryEvents credentials account) fun _ => .pure _
  refine .ite (.pure _) (.tryCatch checks fun failure => ?_)
  exact .ite (.bind (.note _ _ _) fun _ => .pure _) (.throw _)

theorem agree_settle (account : Json) (key : Bytes) : Agree hub.IsAsked
    (settle settings hub account key)
    (settle (settings.withCredentials credentials) (hub.withCredentials credentials) account key) := by
  refine .bind (agree_isVisible hub credentials settings account key) fun seen => ?_
  exact .ite (.pure _) (.ite (.bind (.note _ _ _) fun _ => .sleep _) (.pure _))

theorem agree_adopt {may : Http.Request → Prop} (account : Json) (signer : DelegatedSigner) :
    Agree may (adopt settings account signer)
      (adopt (settings.withCredentials credentials) account signer) := by
  have adopted : Agree may (do
      note .debug .authorization s!"Using caller-supplied signer {signer.keyText}"
      return signer.mark .active) (do
      note .debug .authorization s!"Using caller-supplied signer {signer.keyText}"
      return signer.mark .active) := .bind (.note _ _ _) fun _ => .pure _
  exact .ite (.bind (agree_isAuthorized _ _) fun _ => .guard adopted) adopted

theorem agree_submitKey {may : Http.Request → Prop} (account : Json) (key metadata : Bytes) :
    Agree may (submitKey account key metadata) (submitKey account key metadata) := by
  refine .tryCatch (.transact _ _ _ _ _) fun failure => ?_
  split <;> exact .throw _

theorem agree_authorize (custody : CustodySigner) (account : Json) (owner : String) :
    Agree hub.IsAsked (authorize settings custody hub account owner)
      (authorize (settings.withCredentials credentials) custody (hub.withCredentials credentials) account
        owner) := by
  refine .bind .generateSigner fun signer => .guard ?_
  refine .bind (.bind .unixTime fun _ => .bind (.require _) fun _ => .require _) fun metadata => ?_
  refine .bind (.note _ _ _) fun _ => .bind (agree_submitKey _ _ _) fun receipt => ?_
  refine .bind (.note _ _ _) fun _ => .bind (agree_settle hub credentials settings _ _) fun _ => .pure _

theorem agree_ensure (custody : CustodySigner) (account : Json) (owner : String)
    (key : Option SigningKey) :
    Agree hub.IsAsked (ensure settings custody hub account owner key)
      (ensure (settings.withCredentials credentials) custody (hub.withCredentials credentials) account
        owner key) := by
  cases key with
  | some key => exact .bind (.require _) fun signer => agree_adopt credentials settings _ signer
  | none => exact agree_authorize hub credentials settings custody account owner

end Authorization

namespace NamingAuthority

variable {may : Http.Request → Prop} (authority : NamingAuthority)

theorem agree_lookup (account : Json) :
    Agree may (authority.lookup account) (authority.lookup account) := by
  refine .bind (.exchange (.refl (by simp [Http.Request.ShowsWho]))) fun response => ?_
  refine .ite (.pure _) (.ite (.throw _) ?_)
  split
  · exact .pure _
  · exact .throw _

theorem agree_claim (custody : CustodySigner) (account : Json) (owner : String) :
    Agree may (authority.claim custody account owner) (authority.claim custody account owner) := by
  refine .bind .unixTime fun timestamp => .bind (.require _) fun signature => ?_
  refine .bind (.note _ _ _) fun _ => ?_
  refine .bind (.exchange (.refl (by simp [Http.Request.ShowsWho]))) fun response => ?_
  exact .guard (.bind (.note _ _ _) fun _ => .pure _)

theorem agree_ensure (custody : CustodySigner) (account : Json) (owner : String) :
    Agree may (authority.ensure custody account owner)
      (authority.ensure custody account owner) := by
  refine .bind (authority.agree_lookup account) fun known => ?_
  cases known with
  | some name => exact .bind (.note _ _ _) fun _ => .pure _
  | none => exact .guard (.bind (authority.agree_claim custody account owner) fun _ => .pure _)

end NamingAuthority

namespace Account

variable {may : Http.Request → Prop}

theorem agree_register (owner recovery : String) (price : Int) :
    Agree may (register owner recovery price) (register owner recovery price) := by
  refine .bind (.note _ _ _) fun _ => .bind (.transact _ _ _ _ _) fun receipt => ?_
  refine .bind (.decodeEvents _ _ _) fun events => ?_
  split
  · exact .throw _
  · exact .bind (.require _) fun _ => .bind (.note _ _ _) fun _ => .pure _

theorem agree_ensure (owner : String) (recovery : Option String) :
    Agree may (ensure owner recovery) (ensure owner recovery) := by
  refine .bind (.bind (.read _ _ _) fun _ => .require _) fun account => ?_
  refine .ite (.bind (.note _ _ _) fun _ => .pure _) (.get fun _ _ => .guard ?_)
  refine .bind (.read _ _ _) fun price => .bind (.require _) fun price => ?_
  refine .bind (.balanceOf _) fun balance => .guard (.guard ?_)
  exact agree_register _ _ _

end Account

theorem Publication.agree_publish (body : Body) (account network : Json)
    (signer : DelegatedSigner) (timestamp : Json) : Agree hub.IsAsked
      (publish hub body account network signer timestamp)
      (publish (hub.withCredentials credentials) body account network signer timestamp) := by
  have composes : Agree hub.IsAsked
      (compose body account network signer timestamp)
      (compose body account network signer timestamp) := by
    unfold compose
    refine .guard (.get fun _ _ => ?_)
    dsimp only
    split
    · exact .pure _
    · exact .throw _
  refine .bind composes fun message => .bind (.note _ _ _) fun _ => ?_
  exact .bind (hub.agree_submit credentials message) fun _ => .pure _

end Stages

/-! ## Runs under other credentials -/

namespace Provisioner

variable (provisioner : Provisioner) (credentials : Option String)

/-- A provisioner whose hub is shown other credentials. -/
def withCredentials : Provisioner :=
  { provisioner with
    settings := provisioner.settings.withCredentials credentials
    hub := provisioner.hub.withCredentials credentials }

theorem agree_publishAll (account : Json) (signer : DelegatedSigner) (bodies : List Body) :
    Agree provisioner.hub.IsAsked (provisioner.publishAll account signer bodies)
      ((provisioner.withCredentials credentials).publishAll account signer bodies) := by
  induction bodies with
  | nil => exact .pure _
  | cons body rest ih =>
    refine .bind (Publication.agree_publish _ credentials body account _ signer .null) fun _ => ?_
    exact .bind ih fun others => .pure _

theorem agree_run (key : Option SigningKey) (text : Json) :
    Agree provisioner.hub.IsAsked (provisioner.run key text)
      ((provisioner.withCredentials credentials).run key text) := by
  refine .bind (.bind (.note _ _ _) fun _ => Account.agree_ensure _ _) fun number => ?_
  refine .bind (Authorization.agree_ensure _ credentials _ _ _ _ key) fun signer => ?_
  refine .bind (.modify (fun _ _ => rfl) fun _ => rfl) fun _ => ?_
  refine .bind (NamingAuthority.agree_ensure _ _ _ _) fun name => ?_
  have publishes (line : List Publication → String) (made : List Body) :
      Agree provisioner.hub.IsAsked _ _ :=
    .bind (agree_publishAll provisioner credentials (.int number) signer made)
      fun publications => .bind (.note .info .run (line publications)) fun _ =>
        .pure (Provisioned.mk number provisioner.custody.address signer name publications)
  cases bodies name text with
  | error fault => exact .bind (.throw _) (publishes _)
  | ok made => exact .bind (.pure _) (publishes _)

/-- Credentials do not matter to whether settings can be worked with. -/
theorem ofSettings_withCredentials (settings : Settings) :
    ofSettings (settings.withCredentials credentials) =
      (ofSettings settings).map (·.withCredentials credentials) := by
  unfold ofSettings
  show CustodySigner.ofKey (.str settings.custodyKey) >>= _ = _
  cases CustodySigner.ofKey (.str settings.custodyKey) <;> rfl

/-- The happening shows who asks to nobody but the hub. -/
def KeepsCredentials (provisioner : Provisioner) (happening : Happening) : Prop :=
  ∀ request ∈ happening.request?, request.ShowsWho →
    provisioner.hub.IsAsked request ∧ ¬provisioner.authority.IsAsked request

/-- Settings that differ in the credentials of the hub alone make runs that differ in what
they show to the hub alone. From one session with a ledger, whatever the peers answer, both
runs end in the same result or failure, and leave the same session but for the header that
shows who asks, in requests to the hub. -/
theorem run_veils_credentials {settings : Settings} {first second : Option String}
    {provisioner provisioner' : Provisioner} {key : Option SigningKey} {text : Json}
    {before after after' : Session} {outcome outcome' : Except Failure Provisioned}
    {ledger : Contract.Ledger}
    (isFirst : ofSettings (settings.withCredentials first) = .ok provisioner)
    (isSecond : ofSettings (settings.withCredentials second) = .ok provisioner')
    (on : before.chain = .ledger ledger)
    (ran : Runs (provisioner.run key text) before outcome after)
    (ran' : Runs (provisioner'.run key text) before outcome' after') :
    outcome' = outcome ∧ after'.veiled = after.veiled ∧
      Grows provisioner.KeepsCredentials before after ∧
      Grows provisioner'.KeepsCredentials before after' := by
  have isOther : provisioner' = provisioner.withCredentials second := by
    have both := ofSettings_withCredentials second (settings.withCredentials first)
    rw [isFirst] at both
    exact Except.ok.inj (isSecond.symm.trans both)
  subst isOther
  have level : before.Level before := ⟨rfl, ledger, on⟩
  obtain ⟨same, levelled, abreast⟩ := agree_run provisioner second key text level ran ran'
  have keeps {happening : Happening} (may : ∀ request ∈ happening.request?, request.ShowsWho →
      provisioner.hub.IsAsked request) : provisioner.KeepsCredentials happening :=
    fun request member shows => ⟨may request member shows, (may request member shows).not_naming⟩
  refine ⟨same, ?_, abreast.first_may.mono fun _ => keeps, abreast.symm.first_may.mono fun _ => keeps⟩
  rw [Session.veiled, levelled.rest, abreast.veiled]
  rfl

/-! ### A hub with credentials and without -/

/-- Settings of the owner with the least secret. -/
def leastSettings : Settings :=
  Settings.ofEndpoints "http://chain"
    "0x0000000000000000000000000000000000000000000000000000000000000001" "http://hub"

/-- What the settings make. -/
def leastProvisioner : Provisioner where
  settings := leastSettings
  custody := Authorization.leastCustody
  hub := ⟨"http://hub", none⟩
  authority := ⟨"https://fnames.farcaster.xyz"⟩

theorem ofSettings_leastSettings (credentials : Option String) :
    ofSettings (leastSettings.withCredentials credentials) =
      .ok (leastProvisioner.withCredentials credentials) := by
  have digits : Hex.decodePadded? leastSettings.custodyKey.toList =
      some (List.replicate 31 0 ++ [1]) := by decide
  have made : CustodySigner.ofKey (.str leastSettings.custodyKey) =
      .ok Authorization.leastCustody := by
    rw [CustodySigner.ofKey, digits]
    exact Authorization.ofKey_leastSecret
  rw [ofSettings_withCredentials, ofSettings, made]
  rfl

/-- A run for the owner of an account, with a signing key of the owner's. -/
def leastRun (credentials : Option String) : Except Failure Provisioned × Session :=
  StateT.run (ExceptT.run ((leastProvisioner.withCredentials credentials).run
    (some (.signer Message.sampleSigner)) (.str "hi"))) Authorization.ownerSession

/-- Only one of two runs shows the hub who asks, and nothing else tells them apart. -/
theorem leastRun_veiled :
    ofSettings (leastSettings.withCredentials none) =
      .ok (leastProvisioner.withCredentials none) ∧
    ofSettings (leastSettings.withCredentials (some "ann:secret")) =
      .ok (leastProvisioner.withCredentials (some "ann:secret")) ∧
    (leastProvisioner.withCredentials none).hub.authHeaders = [] ∧
    (leastProvisioner.withCredentials (some "ann:secret")).hub.authHeaders =
      [("Authorization", "Basic YW5uOnNlY3JldA==")] ∧
    (leastRun (some "ann:secret")).1 = (leastRun none).1 ∧
    (leastRun (some "ann:secret")).2.veiled = (leastRun none).2.veiled ∧
    Grows (leastProvisioner.withCredentials none).KeepsCredentials Authorization.ownerSession
      (leastRun none).2 ∧
    Grows (leastProvisioner.withCredentials (some "ann:secret")).KeepsCredentials
      Authorization.ownerSession (leastRun (some "ann:secret")).2 := by
  have ran (credentials : Option String) :
      Runs ((leastProvisioner.withCredentials credentials).run
        (some (.signer Message.sampleSigner)) (.str "hi")) Authorization.ownerSession
        (leastRun credentials).1 (leastRun credentials).2 := .run _ _
  exact ⟨ofSettings_leastSettings none, ofSettings_leastSettings _, rfl, by decide,
    run_veils_credentials (ofSettings_leastSettings none) (ofSettings_leastSettings _) rfl
      (ran none) (ran (some "ann:secret"))⟩

end Provisioner

end Provisioning
