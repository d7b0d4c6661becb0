import Provisioning.Contract.Remote

/-!
# Calls of contracts

The chain as a session uses it: a balance, a function that only reads, a
transaction, the events of a receipt. A ledger in memory answers at once; a node is
asked.
-/

namespace Provisioning.Chain

open Session

/-- The failure of a given value, or the value. -/
def settle {α : Type} (outcome : Except Failure α) : Action α :=
  match outcome with
  | .ok a => pure a
  | .error failure => throw failure

def setChain (chain : Chain) : Action Unit :=
  modify fun session => { session with chain }

/-- Native currency of an address. -/
def balanceOf (address : String) : Action Int := do
  match (← get).chain with
  | .ledger state => return state.balanceOf address
  | .node _ => Contract.Remote.balanceOf address

/-- Calls a function that only reads. -/
def read (contract function : String) (args : List Arg) : Action Arg := do
  match (← get).chain with
  | .ledger state => require (state.read contract function args)
  | .node link => Contract.Remote.read link contract function args

/-- The transactions that a ledger has recorded since another state of it. -/
def recordedSince (before after : Contract.Ledger) : List Contract.Transaction :=
  after.records.drop before.records.length

/-- Sends a transaction to wherever the chain is. -/
def send (contract function : String) (args : List Arg) (value : Int)
    (gasLimit : Option Int) : Action Contract.Receipt := do
  match (← get).chain with
  | .ledger before =>
    let (outcome, after) :=
      before.transact (← get).clock.unix contract function args value
    setChain (.ledger after)
    (recordedSince before after).forM fun transaction => record (.sent transaction)
    settle outcome
  | .node link => Contract.Remote.transact link contract function args value gasLimit

/-- Sends a transaction and waits until it is part of a block. -/
def transact (contract function : String) (args : List Arg) (value : Int)
    (gasLimit : Option Int) : Action Contract.Receipt := do
  let receipt ← send contract function args value gasLimit
  record (.confirmed contract function receipt)
  return receipt

/-- The arguments of the events of a receipt that a contract emitted under a name. -/
def decodeEvents (contract name : String) (receipt : Contract.Receipt) :
    Action (List (List (String × Arg))) :=
  match receipt.logs with
  | .events events =>
    return (events.filter fun event => event.contract == contract && event.name == name).map
      (·.args)
  | .encoded entries => do
    let event ← require (Contract.eventNamed contract name)
    require (Contract.eventArguments event entries)

end Provisioning.Chain
