import Provisioning.Session
import Provisioning.Hub.Credentials

/-!
# The hub

A hub takes signed messages, tells which keys it has seen for an account, and can be
asked to look at an account's events again. A message that it turns down is rejected
for a reason taken from the response; every other error of a query is a failure of
the hub.
-/

namespace Provisioning

structure Hub where
  /-- The location that paths are appended to. -/
  base : String
  /-- The header of basic authorization, if the hub asks for it. -/
  authorization : Option String

namespace Hub

open Session

def ofUrl (url : String) (credentials : Option String) : Hub :=
  ⟨Http.Location.base url, Credentials.header? credentials⟩

/-- The headers that show who asks. -/
def authHeaders (hub : Hub) : List (String × String) :=
  match hub.authorization with
  | some value => [("Authorization", value)]
  | none => []

/-- The headers of a request with a document in it. -/
def postHeaders (hub : Hub) : List (String × String) :=
  ("Content-Type", "application/json") :: hub.authHeaders

/-! ## Messages -/

/-- The members of a rejection that tell why. -/
def reasonKeys : List String := ["errCode", "details", "message", "error"]

/-- The parts of a reason that a document gives. -/
def reasonParts (document : Json) : List String :=
  (reasonKeys.filterMap (document.get? ·)).filter Json.truthy |>.map Json.text

/-- Why a response turns something down: the members of its document that say so,
else its text, else its status. -/
def rejectionReason (response : Http.Response) : String :=
  match response.document with
  | .ok document =>
    match reasonParts document with
    | [] => response.textOrStatus
    | parts => String.intercalate ": " parts
  | .error _ => response.textOrStatus

/-- The members of the object that a response holds. -/
def acceptedFields (response : Http.Response) : List (String × Json) :=
  match response.document with
  | .ok (.obj fields) => fields
  | _ => []

/-- Hands a message in. The result is what the hub says of it. -/
def submit (hub : Hub) (message : Message) : Action Json := do
  let response ← post (hub.base ++ "/v1/submitMessage") message.toWire hub.postHeaders
  if response.ok then return .obj (acceptedFields response)
  else throw (.messageRejected (rejectionReason response) response.status (some message.hash))

/-! ## Keys -/

/-- The bytes of a key's text, with or without `0x`. -/
def keyBytes : Json → Except Fault Bytes
  | .str text =>
    let digits :=
      match text.toList with
      | '0' :: 'x' :: rest => rest
      | digits => digits
    match Hex.decode digits with
    | .ok bytes => .ok bytes
    | .error position => .error (.hex position)
  | other => .error (.operation s!"'{other.kindName}' object has no attribute 'startswith'")

/-- The key in an event; events without one do not count. -/
def eventKey? (event : Json) : Except Fault (Option Bytes) :=
  match event with
  | .obj fields => do
    let body := (Json.find? "signerEventBody" fields).getD .null
    let key ← if body.truthy then body.fieldD "key" .null else pure .null
    if key.truthy then return some (← keyBytes key) else return none
  | _ => .ok none

/-- The keys of events, in order. -/
def eventKeys : List Json → Except Fault (List Bytes)
  | [] => .ok []
  | event :: rest => do
    let key ← eventKey? event
    let others ← eventKeys rest
    return key.toList ++ others

/-- The keys that a document lists; a document of another form lists none. -/
def listedKeys (document : Json) : Except Fault (List Bytes) :=
  match document.get? "events" with
  | some (.arr events) => eventKeys events
  | _ => .ok []

/-- The keys that the hub has seen for an account. -/
def keysOf (hub : Hub) (account : Json) : Action (List Bytes) := do
  let response ← getDocument (hub.base ++ "/v1/onChainSignersByFid") [("fid", account.text)]
    hub.authHeaders
  if response.status = 404 then return []
  else if !response.ok then
    throw (.hub (s!"onChainSignersByFid({account.text}) failed: HTTP " ++
      s!"{Numeral.intText response.status}: {response.text}"))
  else
    let document ← require (response.document.mapError Fault.document)
    require (listedKeys document)

/-- Asks the hub to look at the events of an account again. -/
def retryEvents (hub : Hub) (account : Json) : Action Unit := do
  if account.same (.int 0) then throw (.fault (.refusal .noAccount))
  let response ← post (hub.base ++ "/v1/admin/retryOnchainEvents")
    (Json.obj [("fid", account)]).plainBytes hub.postHeaders
  if !response.ok then
    throw (.hub (s!"retryOnchainEvents({account.text}) failed: HTTP " ++
      s!"{Numeral.intText response.status}: {response.text}"))
  note .info .hub s!"Requested on-chain event retry for fid {account.text}"

end Hub

end Provisioning
