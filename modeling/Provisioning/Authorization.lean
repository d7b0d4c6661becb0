import Provisioning.Contract.Call
import Provisioning.Hub
import Provisioning.Settings

/-!
# Authorization of signers

A run signs with a delegated key. A key that is given counts as authorized, after a
look into the key registry if the settings ask for one. A fresh key is bound to the
account by a transaction that carries the owner's signature, and is then left alone
until the hub can be expected to know it: for a fixed time, or until the hub says
so.
-/

namespace Provisioning

/-- A key that a caller hands in. -/
inductive SigningKey where
  | signer (signer : DelegatedSigner)
  | material (key : Arg)

/-- The signer that a key makes. -/
def SigningKey.toSigner : SigningKey → Except Fault DelegatedSigner
  | .signer ready => .ok ready
  | .material key => DelegatedSigner.ofKey key .unregistered

namespace Authorization

open Session

/-- How long the owner's signature of a key request holds, in seconds. -/
def requestLifetime : Int := 3600

/-- Whether the key registry binds a key to an account. -/
def isAuthorized (account : Json) (key : Bytes) : Action Bool := do
  match ← Chain.read "KeyRegistry" "keyDataOf" [Arg.ofJson account, .bytes key] with
  | .list [state, _] => return (← require state.toInt) == Contract.KeyState.added.code
  | _ => throw (.fault (.kind "a pair is due"))

/-! ## Settling -/

/-- How many more listings than one fit into the timeout. -/
def retries (timeout interval : Binary64) : Except Fault Nat :=
  if interval.isZero then .error .zeroDivision
  else if timeout.isNaN || interval.isNaN || timeout.isInfinite then .error .indefinite
  else if interval.isInfinite then .ok 0
  else
    let whole := Binary64.floorQuotient timeout interval
    if (Binary64.ofInt whole).isInfinite then .error .infinite else .ok whole.toNat

/-- Asks the hub for the keys of an account until the key is among them, at most
`retries` times after the first, and no longer than the timeout. -/
def poll (hub : Hub) (account : Json) (key : Bytes) (timeout interval start : Binary64) :
    (retries : Nat) → Action Bool
  | 0 => do return (← hub.keysOf account).contains key
  | retries + 1 => do
    if (← hub.keysOf account).contains key then return true
    else if timeout.le ((← get).clock.elapsed.sub start) then return false
    else
      sleep interval
      poll hub account key timeout interval start retries

/-- Whether the hub comes to see a key. -/
def awaitVisible (settings : Settings) (hub : Hub) (account : Json) (key : Bytes) :
    Action Bool := do
  let count ← require (retries settings.visibilityTimeout settings.pollInterval)
  let seen ← poll hub account key settings.visibilityTimeout settings.pollInterval
    (← get).clock.elapsed count
  if seen then note .info .authorization s!"Hub has observed signer for fid {account.text}"
  return seen

/-- Asks the hub for a key, and to look again if it does not see it. -/
def checkVisible (settings : Settings) (hub : Hub) (account : Json) (key : Bytes) :
    Action Bool := do
  if ← awaitVisible settings hub account key then return true
  else
    note .warning .authorization (s!"Hub has not seen signer for fid {account.text} after " ++
      s!"{Decimal.floatText settings.visibilityTimeout}s; requesting event retry")
    hub.retryEvents account
    return false

/-- Whether a failure is the hub's, or that of the way to it. -/
def isOfHub : Failure → Bool
  | .hub _ | .transport .. => true
  | _ => false

/-- Whether the hub is known to see a key; a failure of the hub is noted, and the
answer is no. -/
def isVisible (settings : Settings) (hub : Hub) (account : Json) (key : Bytes) :
    Action Bool := do
  if !settings.pollsVisibility then return false
  else
    tryCatch (checkVisible settings hub account key) fun failure => do
      if isOfHub failure then
        note .warning .authorization
          s!"Signer visibility check for fid {account.text} failed: {failure.message}"
        return false
      else throw failure

/-- Waits until the hub can be expected to know a fresh key. -/
def settle (settings : Settings) (hub : Hub) (account : Json) (key : Bytes) : Action Unit := do
  if ← isVisible settings hub account key then return ()
  else
    let delay := settings.settleSeconds
    if Binary64.zero.lt delay then
      note .info .authorization
        s!"Waiting {Decimal.floatText delay}s for the hub to observe the signer"
      sleep delay

/-! ## Signers -/

/-- The arguments of the transaction that binds a key to an account. -/
def keyArguments (key metadata : Bytes) : List Arg :=
  [.int 1, .bytes key, .int 1, .bytes metadata]

/-- Sends the transaction for a key; a failure of the chain is one of the
authorization. -/
def submitKey (account : Json) (key metadata : Bytes) : Action Contract.Receipt :=
  tryCatch (Chain.transact "KeyGateway" "add" (keyArguments key metadata) 0 none) fun failure =>
    match failure with
    | .chainTransaction .. =>
      throw (.signerAuthorization account key failure.message (some failure))
    | other => throw other

/-- The metadata of a key, with the owner's signature of the request. -/
def signedMetadata (custody : CustodySigner) (account : Json) (key : Bytes) : Action Bytes := do
  let deadline := (← unixTime) + requestLifetime
  let signature ← require
    (KeyRequest.sign custody (Arg.ofJson account) key (.int deadline))
  require (KeyRequest.metadata (Arg.ofJson account) (.str custody.address) signature
    (.int deadline))

/-- A signer that a caller hands in. -/
def adopt (settings : Settings) (account : Json) (signer : DelegatedSigner) :
    Action DelegatedSigner := do
  if settings.verifiesSuppliedKey then
    if !(← isAuthorized account signer.publicKey) then
      throw (.signerAuthorization account signer.publicKey
        "supplied key is not ADDED in KeyRegistry" none)
  note .debug .authorization s!"Using caller-supplied signer {signer.keyText}"
  return signer.mark .active

/-- A signer with a fresh key that is bound to the account. -/
def authorize (settings : Settings) (custody : CustodySigner) (hub : Hub) (account : Json)
    (owner : String) : Action DelegatedSigner := do
  let signer ← generateSigner
  if Text.lower owner ≠ Text.lower custody.address then
    throw (.signerAuthorization account signer.publicKey
      s!"custody key {custody.address} is not owner {owner}" none)
  let metadata ← signedMetadata custody account signer.publicKey
  note .info .authorization s!"Authorizing signer {signer.keyText} for fid {account.text}"
  let receipt ← submitKey account signer.publicKey metadata
  note .info .authorization s!"Signer add confirmed in tx {receipt.hash}"
  settle settings hub account signer.publicKey
  return signer.mark .active

/-- An active signer for an account: the one that is handed in, or a fresh one. -/
def ensure (settings : Settings) (custody : CustodySigner) (hub : Hub) (account : Json)
    (owner : String) (key : Option SigningKey) : Action DelegatedSigner := do
  match key with
  | some key => adopt settings account (← require key.toSigner)
  | none => authorize settings custody hub account owner

end Authorization

end Provisioning
