import Provisioning.Publication
import Provisioning.Proofs.Except
import Provisioning.Proofs.Message.Wire
import Provisioning.Proofs.Session.Exchange

/-!
# Publishing

The only request of a publication is the submission of a message that was built from
the body and signed by the signer (`Publication.talks_publish`). Such a request is read
back as that message (`Publication.Submits.read`).
-/

namespace Provisioning

open Session

variable {before after : Session}

/-! ## Built data -/

/-- The data that building ends in, and what it took. -/
theorem MessageData.build_inv {body : Body} {account code : Int} {now : Except Fault Int}
    {data : MessageData}
    (built : build body (.int account) (.int code) .null now = .ok data) :
    0 < account ∧ ∃ timestamp network, Network.ofCode? code = some network ∧
      data = ⟨body.messageType, .int account, .int timestamp, network, body⟩ := by
  unfold build at built
  obtain ⟨refused, isRefused, built⟩ := bind_ok_inv built
  cases isRefused
  obtain ⟨positive, built⟩ := guard_ok_inv built
  obtain ⟨time, isTime, built⟩ := bind_ok_inv built
  obtain ⟨network, isNetwork, built⟩ := bind_ok_inv built
  cases built
  refine ⟨by simpa using positive, ?_⟩
  cases unix : now.bind NetworkTime.ofUnix with
  | error fault =>
    simp only [unix] at isTime
    cases isTime
  | ok timestamp =>
    simp only [unix] at isTime
    cases isTime
    exact ⟨timestamp, network, Json.ofCode?_of_member isNetwork, rfl⟩

theorem Network.code_ofCode? {code : Int} {network : Network}
    (known : ofCode? code = some network) : network.code = code := by
  unfold ofCode? at known
  split at known <;> cases known <;> rfl

/-- A message of a typed body is read back from its wire document. -/
theorem Message.read_signed {body : Body} (typed : body.Typed) {network : Network}
    (known : Network.ofCode? network.code = some network) (account timestamp : Int)
    (signer : DelegatedSigner) :
    ∃ message, (readData (sign ⟨body.messageType, .int account, .int timestamp, network, body⟩
        signer).toWire).bind ofDocument = .ok message ∧
      message.data =
        ⟨body.messageType, .int account, .int timestamp, network, body.recovered⟩ ∧
      message.hash = contentHash (MessageData.encode
        ⟨body.messageType, .int account, .int timestamp, network, body⟩) ∧
      message.signer = signer.publicKey ∧
      message.signature = Ed25519.sign signer.seed message.hash ∧
      (Ed25519.Accepts signer.seed message.hash → message.verify = true) := by
  have faithful := sign_faithful
    (MessageData.typed_of_body typed known account timestamp) signer
  refine ⟨_, read_toWire faithful, rfl, rfl, rfl, rfl, ?_⟩
  intro accepts
  rw [verify_recovered faithful rfl]
  exact verify_sign_of_accepts accepts

namespace Publication

theorem compose_inv {body : Body} {account network : Json} {signer : DelegatedSigner}
    {timestamp : Json} {outcome : Except Failure Message}
    (run : Runs (compose body account network signer timestamp) before outcome after) :
    after = before ∧ ∀ message, outcome = .ok message →
      ∃ data, MessageData.build body account network timestamp before.clock.unix = .ok data ∧
        message = Message.sign data signer := by
  unfold compose at run
  rcases run.guard_inv with ⟨-, rfl, rfl⟩ | ⟨-, building⟩
  · refine ⟨rfl, ?_⟩
    intro message isOk
    cases isOk
  · have building := building.get_bind
    split at building
    · next data built =>
      obtain ⟨rfl, rfl⟩ := building.pure_inv
      refine ⟨rfl, ?_⟩
      intro message isOk
      cases isOk
      exact ⟨data, built, rfl⟩
    · obtain ⟨rfl, rfl⟩ := building.throw_inv
      refine ⟨rfl, ?_⟩
      intro message isOk
      cases isOk

/-- The request submits a message that was built for an account and signed. -/
def Submits (hub : Hub) (account code : Int) (signer : DelegatedSigner) (body : Body)
    (request : Http.Request) : Prop :=
  hub.IsSubmission request ∧ ∃ now data,
    MessageData.build body (.int account) (.int code) .null now = .ok data ∧
      request.body = (Message.sign data signer).toWire

theorem talks_submit (hub : Hub) (message : Message) :
    Talks (fun request => hub.IsSubmission request ∧ request.body = message.toWire)
      (hub.submit message) := by
  refine .bind (.exchange ⟨⟨rfl, rfl⟩, rfl⟩) fun response => ?_
  exact .ite (fun _ => .pure _) fun _ => .throw _

theorem talks_publish (hub : Hub) (body : Body) (account code : Int) (signer : DelegatedSigner) :
    Talks (Submits hub account code signer body)
      (publish hub body (.int account) (.int code) signer .null) := by
  intro before outcome after run
  rcases run.bind_inv with ⟨message, middle, composed, rest⟩ | ⟨failure, composed, -⟩
  · obtain ⟨rfl, isBuilt⟩ := compose_inv composed
    obtain ⟨data, built, rfl⟩ := isBuilt message rfl
    have submits : Talks (Submits hub account code signer body)
        (hub.submit (Message.sign data signer)) := by
      refine (talks_submit hub _).mono ?_
      intro request submits
      obtain ⟨isSubmission, isWire⟩ := submits
      exact ⟨isSubmission, _, data, built, isWire⟩
    exact (Talks.bind (.note _ _ _) fun _ => .bind submits fun _ => .pure _) rest
  · obtain ⟨rfl, -⟩ := compose_inv composed
    exact .refl _ _

/-- A submitted body is read back as a message of the account, on the network, from the
signer, whose signature is that of the content's hash: it verifies if that is accepted. -/
theorem Submits.read {hub : Hub} {account code : Int} {signer : DelegatedSigner} {body : Body}
    (typed : body.Typed) {request : Http.Request}
    (submits : Submits hub account code signer body request) :
    ∃ message, (Message.readData request.body).bind Message.ofDocument = .ok message ∧
      message.data.account = .int account ∧ 0 < account ∧ message.data.network.code = code ∧
      message.signer = signer.publicKey ∧
      message.hash = Message.contentHash message.data.encode ∧
      message.signature = Ed25519.sign signer.seed message.hash ∧
      (Ed25519.Accepts signer.seed message.hash → message.verify = true) := by
  obtain ⟨-, now, data, built, isWire⟩ := submits
  obtain ⟨positive, timestamp, network, known, rfl⟩ := MessageData.build_inv built
  have isCode := Network.code_ofCode? known
  obtain ⟨message, read, isData, isHash, isSigner, isSignature, verifies⟩ :=
    Message.read_signed typed (isCode ▸ known) account timestamp signer
  rw [← isWire] at read
  refine ⟨message, read, by rw [isData], positive, by rw [isData]; exact isCode, isSigner, ?_,
    isSignature, verifies⟩
  rw [isHash, isData]
  exact congrArg Message.contentHash (MessageData.encode_recovered _).symm

end Publication

end Provisioning
