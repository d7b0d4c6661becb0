import Provisioning.Message.Body
import Provisioning.Message.Time
import Provisioning.Json.Writer

/-!
# Message data

What a message says: a body with the account, the network and the time it belongs
to. The canonical text of its document is what the hash of a message commits to.
-/

namespace Provisioning

structure MessageData where
  type : MessageType
  account : Json
  timestamp : Json
  network : Network
  body : Body

namespace MessageData

def toDocument (data : MessageData) : Json :=
  .obj [("type", .int data.type.code), ("fid", data.account), ("timestamp", data.timestamp),
    ("network", .int data.network.code), (data.body.key, data.body.toDocument)]

/-- The canonical bytes. -/
def encode (data : MessageData) : Bytes :=
  data.toDocument.canonical

/-- The body that a document of message data holds; a profile field comes first. -/
def bodyOfDocument (document : Json) : Except Fault (Except Fault Body) := do
  if ← document.mentions "userDataBody" then
    return (document.field "userDataBody").bind Body.profileOfDocument
  else if ← document.mentions "castAddBody" then
    return (document.field "castAddBody").bind Body.postOfDocument
  else throw (.refusal .noBody)

def ofDocument (document : Json) : Except Fault MessageData := do
  let body ← bodyOfDocument document
  let type ← Json.member "MessageType" MessageType.ofCode? (← document.field "type")
  let account ← (← document.field "fid").toInt
  let timestamp ← (← document.field "timestamp").toInt
  let network ← Json.member "Network" Network.ofCode? (← document.field "network")
  return ⟨type, .int account, .int timestamp, network, ← body⟩

/-- Whether an account number is zero or less. -/
def notPositive : Json → Except Fault Bool
  | .bool b => .ok (!b)
  | .int n => .ok (n ≤ 0)
  | .float x => .ok (!x.isNaN && (x.isZero || x.isNegative))
  | other =>
    .error (.kind s!"'<=' not supported between instances of '{other.kindName}' and 'int'")

/-- Puts a body under an account and a network. Without a timestamp, `now` is the
time in seconds since 1970. -/
def build (body : Body) (account network timestamp : Json) (now : Except Fault Int) :
    Except Fault MessageData := do
  if ← notPositive account then throw (.refusal (.invalidAccount account.text))
  let timestamp ←
    match timestamp with
    | .null => (now.bind NetworkTime.ofUnix).map Json.int
    | given => pure given
  let network ← Json.member "Network" Network.ofCode? network
  return ⟨body.messageType, account, timestamp, network, body⟩

/-- Equality by the worth of the values. -/
def same (a b : MessageData) : Bool :=
  a.type.code == b.type.code && a.account.same b.account && a.timestamp.same b.timestamp &&
    a.network.code == b.network.code && a.body.same b.body

end MessageData

end Provisioning
