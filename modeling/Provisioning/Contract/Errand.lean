import Provisioning.Ethereum.Quantity
import Provisioning.Session

/-!
# Errands

What a node is asked for, and on whose behalf. Every answer that cannot be used ends
the errand, and the failure names the contract, the function and the hash of the
transaction if the node has already named one (`Errand.failure`).
-/

namespace Provisioning

structure Errand where
  contract : String
  function : String
  /-- Whether a transaction is only tried out. -/
  rehearses : Bool
  /-- The hash of the transaction, once the node has named it. -/
  hash : Option String

namespace Errand

open Session

/-- What a reason opens with. -/
def opening (errand : Errand) (cause : NodeFault) : String :=
  if !errand.rehearses then ""
  else if cause.isRevert then "simulation reverted: "
  else "simulation failed: "

def failure (errand : Errand) (reason : String) (cause : NodeFault) : Failure :=
  .chainTransaction errand.contract errand.function (errand.opening cause ++ reason)
    errand.hash (some cause)

def fail {α : Type} (errand : Errand) (reason : String) (cause : NodeFault) : Action α :=
  throw (errand.failure reason cause)

/-! ## Answers -/

/-- The kind of a lost call, and what is said of it if nothing else is. -/
def lostKind : Contract.LostCall → NodeFault × String
  | .connection => (.connection, "ConnectionError")
  | .timeout => (.timeout, "TimeoutError")
  | .value => (.value, "ValueError")

/-- A node that knows no such method answers with this code. -/
def unknownMethod : Int := -32601

/-- An error in the words of the node. -/
def refusal (error : Json) : String × NodeFault :=
  let unknown := ((error.get? "code").bind Json.integer?) == some unknownMethod
  (error.shown, if unknown then .unavailable else .rpc)

/-- A message with the data that came with it. -/
def withData (message : String) (data : Json) : String :=
  "(" ++ Text.quoted message ++ ", " ++ data.shown ++ ")"

/-- What data of an error begin with if they hold a reason in words. -/
def reasonSelector : String := "0x08c379a0"

/-- Data of an error that hold neither nothing nor a reason in words. Three forms are not told
apart from data of a contract's own: a reason behind the word `Reverted`, a panic with its
code, and a look-up that is to be made elsewhere. Their wording is the client library's and not
the program's, and the last is answered by servers that a contract names, which are none of the
peers here. -/
def isCustom (data : String) : Bool :=
  10 ≤ data.length && !(reasonSelector.toList.isPrefixOf data.toList)

/-- Why a contract refuses, if the error says that it does: it comes with data of
its own, with the code of a refusal, or with a message that tells of one. -/
def revert? (error : Json) : Option (String × NodeFault) :=
  let message := match error.get? "message" with
    | some (.str text) => text
    | _ => ""
  let data := (error.get? "data").getD (.str "no data")
  let told :=
    if message = "" then none
    else if (error.get? "code").bind Json.integer? == some 3 then
      some (withData message data, .reverted)
    else if Json.occurs "execution reverted".toList message.toList then
      some (withData "execution reverted" data, .reverted)
    else none
  match data with
  | .null => some (withData (if message = "" then "execution reverted" else message) data, .reverted)
  | .obj _ =>
    if message = "" then none
    else some (withData ("execution reverted: " ++ message) data, .reverted)
  | .str text => if isCustom text then some (withData text data, .customRevert) else told
  | _ => told

/-- Takes the node's next answer to a method. -/
def answerTo (method : String) (params : Json) : Action Contract.NodeAnswer := do
  record (.called method params)
  match (← get).chain with
  | .ledger _ => return .lost .connection "connection refused"
  | .node link =>
    let (answer, script) := Contract.Node.next method link.script
    modify fun session => { session with chain := .node { link with script } }
    return answer

/-- What an answer holds; `explain` words an error. -/
def accept (errand : Errand) (explain : Json → String × NodeFault) :
    Contract.NodeAnswer → Action Json
  | .result value => return value
  | .error error => errand.fail (explain error).1 (explain error).2
  | .lost kind text =>
    errand.fail (if text = "" then (lostKind kind).2 else text) (lostKind kind).1

def ask (errand : Errand) (method : String) (params : List Json) : Action Json := do
  errand.accept refusal (← answerTo method (.arr params))

/-- Asks for something that a contract can refuse. -/
def askContract (errand : Errand) (method : String) (params : List Json) : Action Json := do
  errand.accept (fun error => (revert? error).getD (refusal error))
    (← answerTo method (.arr params))

/-! ## Values of answers -/

/-- The number that a text writes; any other value is left as it is. -/
def number (errand : Errand) : Json → Action Json
  | .str text =>
    match Quantity.ofText? text with
    | some n => return .int n
    | none =>
      errand.fail ("invalid literal for int() with base 16: " ++ Text.quoted text) .value
  | other => return other

def askNumber (errand : Errand) (method : String) (params : List Json) : Action Json := do
  errand.number (← errand.ask method params)

/-- The bytes that a value writes: marked hexadecimal text, or a number with as few
bytes as it has, but one at least. -/
def written? : Json → Option Bytes
  | .str text => Hex.decodePadded? text.toList
  | .bool b => some [if b then 1 else 0]
  | .int n =>
    if n < 0 then none
    else if n = 0 then some [0]
    else some (Bytes.minimal n.toNat)
  | _ => none

/-- Why a value writes no bytes. -/
def unwritten (errand : Errand) : Json → Failure
  | .str _ => errand.failure "Non-hexadecimal digit found" .digits
  | .int n => errand.failure s!"Cannot convert negative integer {Numeral.intText n} to bytes" .value
  | other => .fault (.kind s!"no bytes in '{other.kindName}'")

/-- The bytes that a value writes. -/
def bytes (errand : Errand) (value : Json) : Action Bytes :=
  match written? value with
  | some bytes => return bytes
  | none => throw (errand.unwritten value)

/-- How many bytes stand in front of the last `size` ones. A slice that starts before
the first byte is counted from the end instead. -/
def surplus (size : Nat) (bytes : Bytes) : Nat :=
  if size ≤ bytes.length then bytes.length - size else bytes.length - (size - bytes.length)

/-- The bytes behind the surplus, which may be nothing but zeros. -/
def fitted? (size : Nat) (bytes : Bytes) : Option Bytes :=
  let surplus := surplus size bytes
  if (bytes.take surplus).all (· == 0) then some (bytes.drop surplus) else none

/-- Whether bytes can be taken from a kind of value at all. -/
def holdsBytes : Json → Bool
  | .str _ | .bool _ | .int _ => true
  | _ => false

/-- So many bytes, in front of which nothing but zeros is dropped. -/
def sized (errand : Errand) (size : Nat) (value : Json) : Action Bytes := do
  if !holdsBytes value then
    errand.fail (s!"Cannot convert {value.shown} to HexBytes") .noBytes
  let bytes ← errand.bytes value
  match fitted? size bytes with
  | some fitted => return fitted
  | none =>
    errand.fail (s!"The value HexBytes('{Hex.marked bytes}') is {bytes.length} bytes, " ++
      s!"but should be {size}") .size

/-- Asks for something that is named by a hash. -/
def askHash (errand : Errand) (method : String) (params : List Json) : Action Bytes := do
  errand.sized 32 (← errand.ask method params)

/-- The number of the chain that the node is on. -/
def chainNumber (errand : Errand) : Action Json :=
  errand.askNumber "eth_chainId" []

/-- What a function returns for a request, as bytes. -/
def call (errand : Errand) (request : Json) : Action Bytes := do
  let _ ← errand.chainNumber
  errand.bytes (← errand.askContract "eth_call" [request, .str "latest"])

end Errand

end Provisioning
