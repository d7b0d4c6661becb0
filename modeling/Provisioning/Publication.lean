import Provisioning.Hub

/-!
# Publication

A message is composed from a body, signed by an active signer, and handed to the
hub. What fails before that is a failure of construction, and nothing is sent.
-/

namespace Provisioning

open Session

/-- What is known of a message that the hub has accepted. -/
structure Publication where
  hash : Bytes
  account : Json
  type : MessageType
  /-- What the hub said of it. -/
  response : Json

namespace Publication

/-- A fault of a message's parts as a failure: value and kind faults are failures of
construction. -/
def constructionFailure (account : Json) (fault : Fault) : Failure :=
  if fault.isValue || fault.isKind then
    .messageConstruction account fault.message (some fault)
  else .fault fault

/-- Builds and signs a message. -/
def compose (body : Body) (account network : Json) (signer : DelegatedSigner)
    (timestamp : Json) : Action Message := do
  if !signer.isActive then
    throw (.messageConstruction account
      s!"signer {signer.keyText} is {signer.state.name}, not ACTIVE" none)
  match MessageData.build body account network timestamp (← get).clock.unix with
  | .ok data => return Message.sign data signer
  | .error fault => throw (constructionFailure account fault)

/-- Composes a message and hands it to a hub. -/
def publish (hub : Hub) (body : Body) (account network : Json) (signer : DelegatedSigner)
    (timestamp : Json) : Action Publication := do
  let message ← compose body account network signer timestamp
  note .info .publication (s!"Submitting {message.data.type.name} " ++
    s!"{Hex.marked message.hash} for fid {account.text}")
  let response ← hub.submit message
  return ⟨message.hash, account, message.data.type, response⟩

end Publication

end Provisioning
