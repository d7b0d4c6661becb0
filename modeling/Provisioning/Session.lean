import Provisioning.Clock
import Provisioning.Contract.Node
import Provisioning.Peers

/-!
# Sessions

A session is everything that a run reads and changes: the clock, the seeds of fresh
keys, the chain, the servers at the other ends, and the signer that is kept for the
next run. What it does is written down in a journal, in order. An `Action` ends in a
value or a failure, and in either case leaves a session behind.
-/

namespace Provisioning

inductive Level where
  | debug
  | info
  | warning
  | error
deriving DecidableEq

def Level.name : Level → String
  | .debug => "DEBUG"
  | .info => "INFO"
  | .warning => "WARNING"
  | .error => "ERROR"

/-- The part of a session that a note is from. -/
inductive Source where
  | accounts
  | authorization
  | naming
  | hub
  | publication
  | run
  | node
  | transport
  | commandLine
deriving DecidableEq

/-- The name under which notes are written. -/
def Source.name : Source → String
  | .accounts => "fidforge.registry.identity"
  | .authorization => "fidforge.registry.keys"
  | .naming => "fidforge.registry.names"
  | .hub => "fidforge.hub.client"
  | .publication => "fidforge.hub.publisher"
  | .run => "fidforge.pipeline"
  | .node => "fidforge.chain.client"
  | .transport => "fidforge.transport.http"
  | .commandLine => "fidforge"

/-- What a session did. -/
inductive Happening where
  | noted (level : Level) (source : Source) (text : String)
  | slept (seconds : Binary64)
  | sent (transaction : Contract.Transaction)
  /-- A transaction that was sent became part of a block. -/
  | confirmed (contract function : String) (receipt : Contract.Receipt)
  | requested (request : Http.Request) (path : String)
  /-- A request that was sent had a response. -/
  | answered (request : Http.Request) (response : Http.Response)
  | called (method : String) (params : Json)
  | printed (line : String)

/-- Where transactions go. -/
inductive Chain where
  | ledger (state : Contract.Ledger)
  | node (link : Contract.Node)

namespace Chain

/-- The address that transactions are sent from. -/
def address : Chain → String
  | .ledger state => state.address
  | .node link => link.address

/-- The keys that a ledger knows. -/
def keys : Chain → List Contract.KeyEntry
  | .ledger state => state.keys
  | .node _ => []

end Chain

structure Session where
  clock : Clock
  /-- Seeds for the next fresh keys. -/
  seeds : List Bytes
  /-- How many fresh keys there were. -/
  generated : Nat
  chain : Chain
  peers : Peers
  /-- What happened, in order. -/
  journal : List Happening
  /-- The signer of the latest run that got one. -/
  kept : Option DelegatedSigner

/-- A computation that may fail, and leaves a session in any case. -/
abbrev Action := ExceptT Failure (StateM Session)

namespace Session

def record (happening : Happening) : Action Unit :=
  modify fun session => { session with journal := session.journal ++ [happening] }

def note (level : Level) (source : Source) (text : String) : Action Unit :=
  record (.noted level source text)

/-- The value of a given thing that may be faulty. -/
def require {α : Type} (value : Except Fault α) : Action α :=
  match value with
  | .ok a => pure a
  | .error fault => throw (.fault fault)

/-- Whole seconds since the start of 1970. -/
def unixTime : Action Int := do
  require (← get).clock.unix

def advance (seconds : Binary64) : Action Unit :=
  modify fun session => { session with clock := session.clock.advance seconds }

/-- Waits, and writes it down. -/
def sleep (seconds : Binary64) : Action Unit := do
  record (.slept seconds)
  advance seconds

/-- The seed of the next fresh key: a prepared one, or else the key's number in
every byte. -/
def nextSeed (session : Session) : Bytes × Session :=
  let generated := session.generated + 1
  match session.seeds with
  | seed :: rest => (seed, { session with seeds := rest, generated })
  | [] => (List.replicate 32 (UInt8.ofNat generated), { session with generated })

/-- A signer with a fresh key. -/
def generateSigner : Action DelegatedSigner := do
  let (seed, session) := (← get).nextSeed
  set session
  return DelegatedSigner.ofSeed seed .unregistered

/-! ## Requests -/

/-- What comes of a reply to a request. -/
def respond (request : Http.Request) (reply : Reply) : Action Http.Response := do
  match reply with
  | .respond response => return response
  | .lost reason => throw (.transport request.method request.url reason none)
  | .serve service =>
    let session ← get
    let (response, peers) ←
      require (session.peers.serve session.chain.keys service request)
    modify fun session => { session with peers }
    return response

/-- Takes the answer of the peers to a request, and the time that it needs. -/
def takeAnswer (method path : String) : Action Reply := do
  let (answer, peers) := (← get).peers.take method path
  modify fun session => { session with peers }
  answer.delays.forM advance
  return answer.reply

/-- Sends a request to whoever is at the other end. -/
def exchange (request : Http.Request) : Action Http.Response := do
  let path ← require (Http.Location.path request.url)
  record (.requested request path)
  let reply ← takeAnswer request.method path
  let response ← respond request reply
  record (.answered request response)
  return response

def getDocument (url : String) (params headers : List (String × String)) :
    Action Http.Response :=
  exchange ⟨"GET", url, params, headers, []⟩

def post (url : String) (body : Bytes) (headers : List (String × String)) :
    Action Http.Response :=
  exchange ⟨"POST", url, [], headers, body⟩

/-- How many requests were sent with a method to a path. -/
def requestCount (session : Session) (method path : String) : Nat :=
  let method := String.ofList (Text.upper method.toList)
  (session.journal.filter fun happening =>
    match happening with
    | .requested request place => request.method == method && place == path
    | _ => false).length

end Session

end Provisioning
