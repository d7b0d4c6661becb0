import Provisioning.Http.Location
import Provisioning.Contract.Ledger
import Provisioning.Message
import Provisioning.Script

/-!
# The other ends

The servers that a session talks to, as a value. A request is answered by what is
queued; else by the first route with its method and path; else it finds nothing.
A route holds prepared answers, the last of which stays, or stands for a simulated
service: a naming authority or a hub that keep what they have accepted.
-/

namespace Provisioning

/-- A simulated service. -/
inductive Service where
  /-- Sends the body back. -/
  | echo
  /-- Tells the name of an account, at an authority that keeps names apart. -/
  | currentName
  /-- Records a claim of a name that nobody has. -/
  | claimName
  /-- Accepts messages that verify, from keys of the ledger, once each. -/
  | acceptMessage
  /-- Lists the keys that the ledger knows of an account. -/
  | listKeys
  /-- Tells the name of an account, at an authority that accepts everything. -/
  | openCurrentName
  /-- Records any claim. -/
  | openClaimName

inductive Reply where
  | respond (response : Http.Response)
  /-- No response is had, for a reason. -/
  | lost (reason : String)
  | serve (service : Service)

/-- A reply and how long it takes, in parts. -/
structure Answer where
  delays : List Binary64
  reply : Reply

structure Route where
  method : String
  path : String
  /-- The answers still to come. -/
  answers : List Answer

structure Peers where
  queue : List Answer
  routes : List Route
  /-- Names by account, at the authority that keeps them apart. -/
  names : List (String × Json)
  /-- Names by account, at the authority that accepts everything. -/
  openNames : List (String × Json)
  /-- Hashes of the messages that the hub has accepted. -/
  accepted : List Bytes

namespace Peers

def silent : Peers := ⟨[], [], [], [], []⟩

def answerOf (response : Http.Response) : Answer := ⟨[], .respond response⟩

/-- A naming authority and a hub that accept everything. -/
def accepting : Peers :=
  let route (method path : String) (service : Service) : Route :=
    ⟨method, path, [⟨[], .serve service⟩]⟩
  { silent with routes :=
    [route "GET" "/transfers/current" .openCurrentName,
      route "POST" "/transfers" .openClaimName,
      route "POST" "/v1/submitMessage" .echo] }

def enqueue (peers : Peers) (answer : Answer) : Peers :=
  { peers with queue := peers.queue ++ [answer] }

/-- Adds a route behind the others. -/
def addRoute (peers : Peers) (method path : String) (answers : List Answer) : Peers :=
  let method := String.ofList (Text.upper method.toList)
  { peers with routes := peers.routes ++ [⟨method, path, answers⟩] }

/-- Records a name for an account. -/
def setName (peers : Peers) (account : String) (name : Json) : Peers :=
  { peers with names := Json.put account name peers.names }

def notFound : Http.Response := Http.Response.ofText 404 "Not Found"

/-- Takes the answer of the first route that fits. -/
def takeRoute (method path : String) : List Route → Answer × List Route
  | [] => (answerOf notFound, [])
  | route :: rest =>
    if route.method = method ∧ route.path = path then
      (route.answers.head?.getD (answerOf notFound),
        { route with answers := Script.afterFirst route.answers } :: rest)
    else
      let (answer, rest) := takeRoute method path rest
      (answer, route :: rest)

/-- Takes the answer to a request. -/
def take (peers : Peers) (method path : String) : Answer × Peers :=
  match peers.queue with
  | answer :: rest => (answer, { peers with queue := rest })
  | [] =>
    let (answer, routes) := takeRoute method path peers.routes
    (answer, { peers with routes })

/-! ## Simulated services -/

/-- The account that a request asks about. -/
def asked (request : Http.Request) : String :=
  (Contract.Ledger.lookup "fid" request.params).getD "None"

def readBody (request : Http.Request) : Except Fault Json :=
  Message.readData request.body

def currentName (peers : Peers) (request : Http.Request) : Http.Response :=
  let account := asked request
  match Json.find? account peers.names with
  | some name =>
    let number := (Numeral.int? account.toList).getD 0
    .ofJson 200 (.obj [("transfer", .obj [("username", name), ("to", .int number)])])
  | none => .ofText 404 "\x7b\"code\":\"NOT_FOUND\"\x7d"

def claimName (peers : Peers) (request : Http.Request) :
    Except Fault (Http.Response × Peers) := do
  let transfer ← readBody request
  let name ← transfer.field "name"
  if peers.names.any fun (_, taken) => taken.same name then
    return (.ofJson 400 (.obj [("code", .str "USERNAME_TAKEN")]), peers)
  else
    let account ← transfer.field "to"
    return (.ofJson 200 (.obj [("transfer", transfer)]), peers.setName account.text name)

def refusal (code text : String) : Http.Response :=
  .ofJson 400 (.obj [("errCode", .str code), ("message", .str text)])

/-- Whether a key stands in the ledger for an account, in whatever state. -/
def isKnown (keys : List Contract.KeyEntry) (account : Json) (key : Bytes) : Bool :=
  keys.any fun entry => some entry.account == account.integer? && entry.key == key

def acceptMessage (peers : Peers) (keys : List Contract.KeyEntry) (request : Http.Request) :
    Except Fault (Http.Response × Peers) := do
  let message ← Message.ofDocument (← readBody request)
  if !message.verify then
    return (refusal "bad_request.validation_failure" "invalid signature", peers)
  else if !isKnown keys message.data.account message.signer then
    return (refusal "bad_request.validation_failure" "unknown signer", peers)
  else if peers.accepted.contains message.hash then
    return (refusal "bad_request.duplicate" "message has already been merged", peers)
  else
    return (.ofJson 200 message.toDocument,
      { peers with accepted := peers.accepted ++ [message.hash] })

def keyEvent (key : Bytes) : Json :=
  .obj [("signerEventBody", .obj [("key", .str (Hex.marked key))])]

def listKeys (keys : List Contract.KeyEntry) (request : Http.Request) : Http.Response :=
  let account := Numeral.int? (asked request).toList
  let known := (keys.filter fun entry => some entry.account == account).map (·.key)
  let sorted := known.mergeSort fun a b => !Bytes.lt b a
  .ofJson 200 (.obj [("events", .arr (sorted.map keyEvent))])

def openCurrentName (peers : Peers) (request : Http.Request) : Http.Response :=
  match (Contract.Ledger.lookup "fid" request.params).bind (Json.find? · peers.openNames) with
  | some name => .ofJson 200 (.obj [("transfer", .obj [("username", name)])])
  | none => ⟨404, [], []⟩

def openClaimName (peers : Peers) (request : Http.Request) :
    Except Fault (Http.Response × Peers) := do
  let transfer ← readBody request
  let name ← transfer.field "name"
  let account ← transfer.field "fid"
  return (.ofJson 200 (.obj [("transfer", transfer)]),
    { peers with openNames := Json.put account.text name peers.openNames })

/-- What a simulated service responds; `keys` are the ledger's. -/
def serve (peers : Peers) (keys : List Contract.KeyEntry) (service : Service)
    (request : Http.Request) : Except Fault (Http.Response × Peers) :=
  match service with
  | .echo => .ok (⟨200, request.body, []⟩, peers)
  | .currentName => .ok (peers.currentName request, peers)
  | .claimName => peers.claimName request
  | .acceptMessage => peers.acceptMessage keys request
  | .listKeys => .ok (listKeys keys request, peers)
  | .openCurrentName => .ok (peers.openCurrentName request, peers)
  | .openClaimName => peers.openClaimName request

end Peers

end Provisioning
