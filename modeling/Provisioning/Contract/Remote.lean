import Provisioning.Contract.EventLog
import Provisioning.Contract.Invocation
import Provisioning.Ethereum.FeeTransaction
import Provisioning.Settings
import Provisioning.Signer.Custody

/-!
# Contracts behind a node

Balances, calls and transactions as a node is asked for them. A transaction is tried
out first, then signed, sent, and waited for until its receipt is there or the time
is up. From the moment the node has named its hash, every failed answer carries that
hash.
-/

namespace Provisioning.Contract

/-- The addresses of the contracts. -/
def addressOf (settings : Settings) : Registry → String
  | .accountGateway => settings.accountGateway
  | .accountRegistry => settings.accountRegistry
  | .keyGateway => settings.keyGateway
  | .keyRegistry => settings.keyRegistry

/-- The connection that settings describe, to a node that answers from a script. -/
def Node.ofSettings (settings : Settings) (script : List (String × List NodeAnswer)) :
    Except Fault Node := do
  let custody ← CustodySigner.ofKey (.str settings.custodyKey)
  let locate (registry : Registry) : Except Fault Bytes :=
    Address.read (Text.lower (addressOf settings registry))
  let accountGateway ← locate .accountGateway
  let accountRegistry ← locate .accountRegistry
  let keyGateway ← locate .keyGateway
  let keyRegistry ← locate .keyRegistry
  let place : Registry → Bytes
    | .accountGateway => accountGateway
    | .accountRegistry => accountRegistry
    | .keyGateway => keyGateway
    | .keyRegistry => keyRegistry
  return ⟨custody.secret, custody.address, settings.chainId, settings.transactionTimeout,
    place, script⟩

namespace Remote

open Session

/-- The block that everything is asked of. -/
def latest : Json := .str "latest"

/-! ## Reading -/

def balanceOf (address : String) : Action Int := do
  let errand : Errand := ⟨"eth", "getBalance", false, none⟩
  match Address.read address with
  | .error fault => errand.fail fault.message .value
  | .ok bytes =>
    match ← errand.askNumber "eth_getBalance" [.str (Address.text bytes), latest] with
    | .int n => return n
    | other => throw (.fault (.kind s!"no balance in '{other.kindName}'"))

/-- What a function returns for a request. -/
def results (errand : Errand) (function : Function) (target : String) (request : Json) :
    Action Arg := do
  let data ← errand.call request
  match function.results data with
  | some value => return value
  | none =>
    if data.isEmpty then
      let code ← errand.bytes (← errand.ask "eth_getCode" [.str target, latest])
      if code.isEmpty then errand.fail missingText .badOutput
    errand.fail (function.undecodableText data) .badOutput

/-- Calls a function with arguments that fit it; an address without its checksum
ends the errand before anything is asked. -/
def invoke (errand : Errand) (function : Function) (args : List Arg) (target : String)
    (request : Json) : Action Arg :=
  match function.misspelled? args with
  | some address => errand.fail (Function.spellingText address) .spelling
  | none => results errand function target request

/-- Calls a function that only reads. -/
def read (link : Node) (contract function : String) (args : List Arg) : Action Arg := do
  let (registry, entry) ← require (functionNamed contract function)
  let data ← require (entry.callData args)
  let target := Address.text (link.locate registry)
  invoke ⟨contract, function, false, none⟩ entry args target
    (.obj [("to", .str target), ("data", .str (Hex.marked data))])

/-! ## Fees -/

/-- What is offered at least and at most if it is taken from the history of fees. -/
def leastPriorityFee : Nat := 1000000000

def mostPriorityFee : Nat := 1500000000

/-- The quotient to the nearest integer; a half goes to the even neighbour. -/
def nearest (n d : Nat) : Nat :=
  let q := n / d
  let rest := 2 * (n % d)
  if d < rest || (rest == d && q % 2 == 1) then q + 1 else q

/-- The mean of the fees that are not zero, within the bounds. -/
def meanFee (fees : List Nat) : Nat :=
  let paid := fees.filter (· ≠ 0)
  let mean := nearest paid.sum (max paid.length 1)
  min (max mean leastPriorityFee) mostPriorityFee

/-- The first fee of each block of a history. -/
def rewards (errand : Errand) (history : Json) : Action (List Nat) := do
  let blocks ← require ((← require (history.field "reward")).items)
  blocks.mapM fun block => do
    match ← require block.items with
    | [] => throw (.fault .tooFew)
    | fee :: _ =>
      match ← errand.number fee with
      | .int n => return n.toNat
      | other => throw (.fault (.kind s!"no fee in '{other.kindName}'"))

/-- What to offer above the base fee: what the node proposes, else what has been
offered lately. -/
def priorityFee (errand : Errand) : Action Json := do
  let method := "eth_maxPriorityFeePerGas"
  match ← Errand.answerTo method (.arr []) with
  | .error _ =>
    let history ← errand.ask "eth_feeHistory"
      [.str (Quantity.text 10), .str "pending", .arr [.float (Binary64.ofInt 5)]]
    return .int (meanFee (← rewards errand history))
  | answer => errand.number (← errand.accept Errand.refusal answer)

/-- The base fee of the latest block. -/
def baseFee (errand : Errand) : Action Json := do
  let block ← errand.ask "eth_getBlockByNumber" [latest, .bool false]
  match block with
  | .null => errand.fail "Block with id: 'latest' not found." .noBlock
  | _ => errand.number (← require (block.field "baseFeePerGas"))

/-! ## Transactions -/

/-- What a transaction asks of a function. -/
structure Order where
  registry : Registry
  function : Function
  args : List Arg
  data : Bytes
  value : Int

def Order.target (order : Order) (link : Node) : String :=
  Address.text (link.locate order.registry)

/-- The order as a node is asked about it. -/
def Order.request (order : Order) (link : Node) (nonce : Option Json) : Json :=
  .obj ([("from", .str link.address), ("value", Quantity.shown (.int order.value))] ++
    (match nonce with
    | some nonce => [("nonce", Quantity.shown nonce)]
    | none => []) ++
    [("to", .str (order.target link)), ("data", .str (Hex.marked order.data))])

/-- The gas that the node estimates; it must be on the chain of the transaction. -/
def estimatedGas (errand : Errand) (link : Node) (order : Order) (nonce : Json) :
    Action Json := do
  let chain ← errand.chainNumber
  if !chain.same (.int link.chainId) then
    errand.fail (s!"The transaction declared chain ID {Numeral.intText link.chainId}, " ++
      s!"but the connected node is on {chain.shown}") .chainMismatch
  errand.number (← errand.askContract "eth_estimateGas"
    [order.request link (some nonce), latest])

/-- A natural that must be there. -/
def natural : Json → Except Fault Nat
  | .int n => if 0 ≤ n then .ok n.toNat else .error (.kind "a negative amount")
  | other => .error (.kind s!"no amount in '{other.kindName}'")

/-- The signed transaction of an order, with what the node says of nonce, gas and
fees. -/
def prepare (errand : Errand) (link : Node) (order : Order) (gasLimit : Option Int) :
    Action Bytes := do
  let nonce ← errand.askNumber "eth_getTransactionCount" [.str link.address, latest]
  let gas ←
    match gasLimit.filter (· ≠ 0) with
    | some limit => pure (Json.int limit)
    | none => estimatedGas errand link order nonce
  let priority ← priorityFee errand
  let base ← baseFee errand
  let priority ← require (natural priority)
  let base ← require (natural base)
  let nonce ← require (natural nonce)
  let gas ← require (natural gas)
  let value ← require (natural (.int order.value))
  let transaction : FeeTransaction :=
    ⟨link.chainId.toNat, nonce, priority, priority + 2 * base, gas,
      link.locate order.registry, value, order.data⟩
  return transaction.signed link.secret

/-! ## Receipts -/

/-- A receipt that is there; a node that still looks for it has none yet. -/
def receipt? (errand : Errand) (hash : Bytes) : Action (Option Json) := do
  let answer ← Errand.answerTo "eth_getTransactionReceipt"
    (.arr [.str (Hex.marked (Bytes.padRight 32 hash))])
  match answer with
  | .error error =>
    match error.get? "message" with
    | some (.str text) =>
      if Json.occurs "index".toList text.toList && Json.occurs "in progress".toList text.toList
      then return none
      else errand.accept Errand.refusal answer
    | _ => errand.accept Errand.refusal answer
  | _ =>
    match ← errand.accept Errand.refusal answer with
    | .null | .str "0x" => return none
    | document => return some document

/-- How long to wait before the next look for a receipt. -/
def lookInterval : Binary64 := Binary64.ofRatio false 1 10

/-- Looks for a receipt until the deadline is over, at most `looks` times. -/
def awaitReceipt (errand : Errand) (hash : Bytes) (deadline : Binary64) :
    (looks : Nat) → Action Json
  | 0 => errand.fail "receipt wait timed out" .receiptTimeout
  | looks + 1 => do
    match ← receipt? errand hash with
    | some document => return document
    | none =>
      advance lookInterval
      if deadline.lt (← get).clock.time then
        errand.fail "receipt wait timed out" .receiptTimeout
      else awaitReceipt errand hash deadline looks

/-- More looks than fit into a timeout. -/
def looksWithin (timeout : Binary64) : Nat :=
  (Binary64.floorQuotient timeout lookInterval).toNat + 4

/-- Checks a part of a document, if it is there. -/
def checkPart (document : Json) (key : String) (check : Json → Action Unit) : Action Unit :=
  match document.get? key with
  | some part => check part
  | none => pure ()

/-- Checks that an entry of a receipt is written as it should be. -/
def checkEntry (errand : Errand) (entry : Json) : Action Unit := do
  checkPart entry "topics" fun topics => do
    (← require topics.items).forM fun topic => discard (errand.sized 32 topic)
  checkPart entry "data" fun data => discard (errand.bytes data)

/-- A number of a receipt, if the receipt has it. -/
def receiptNumber (errand : Errand) (document : Json) (key : String) : Action (Option Json) :=
  match document.get? key with
  | some value => do return some (← errand.number value)
  | none => return none

/-- What is there under a key. -/
def present {α : Type} (key : String) : Option α → Except Fault α
  | some value => .ok value
  | none => .error (.absent key)

/-- The receipt of a transaction, from the node's document of it. -/
def readReceipt (errand : Errand) (hash : String) (document : Json) : Action Receipt := do
  let status? ← receiptNumber errand document "status"
  let block? ← receiptNumber errand document "blockNumber"
  checkPart document "logs" fun entries => do
    (← require entries.items).forM (checkEntry errand)
  let status ← require (present "status" status?)
  let block ← require (present "blockNumber" block?)
  let entries ← require ((← require (document.field "logs")).items)
  return ⟨hash, (status.integer?).getD 0, block.integer?, .encoded entries⟩

/-- Tries an order out without sending it. -/
def rehearse (contract function : String) (link : Node) (order : Order) : Action Unit :=
  discard (invoke ⟨contract, function, true, none⟩ order.function order.args
    (order.target link) (order.request link none))

/-- The name of a block in a text. -/
def blockText : Option Int → String
  | some n => Numeral.intText n
  | none => "None"

/-- Waits for a transaction that the node has named, and checks that it went well. -/
def confirm (errand : Errand) (hash : Bytes) (timeout : Binary64) : Action Receipt := do
  let shown := Hex.marked hash
  let errand := { errand with hash := some shown }
  note .info .node s!"Submitted {errand.contract}.{errand.function}: {shown}"
  let deadline := (← get).clock.time.add timeout
  let document ← awaitReceipt errand hash deadline (looksWithin timeout)
  let receipt ← readReceipt errand shown document
  if !receipt.confirmed then
    throw (.chainTransaction errand.contract errand.function "reverted" (some shown) none)
  note .info .node
    s!"Confirmed {errand.contract}.{errand.function} in block {blockText receipt.block}"
  return receipt

/-- Tries an order out, sends it, and waits for its receipt. -/
def transact (link : Node) (contract function : String) (args : List Arg) (value : Int)
    (gasLimit : Option Int) : Action Receipt := do
  let (registry, entry) ← require (functionNamed contract function)
  let data ← require (entry.callData args)
  let order : Order := ⟨registry, entry, args, data, value⟩
  rehearse contract function link order
  let errand : Errand := ⟨contract, function, false, none⟩
  let signed ← prepare errand link order gasLimit
  let hash ← errand.askHash "eth_sendRawTransaction" [.str (Hex.marked signed)]
  confirm errand hash link.timeout

end Remote

end Provisioning.Contract
