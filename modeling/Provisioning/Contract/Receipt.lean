import Provisioning.Arg

/-!
# Transactions and receipts

What was sent to a contract and what came of it. A ledger in memory reports the
events of a transaction ready to read; a node reports them encoded.
-/

namespace Provisioning.Contract

/-- A call that was sent, whatever came of it. -/
structure Transaction where
  contract : String
  function : String
  args : List Arg
  value : Int
  hash : String

structure Event where
  contract : String
  name : String
  args : List (String × Arg)

inductive Logs where
  | events (events : List Event)
  | encoded (entries : List Json)

/-- A transaction that is part of a block. -/
structure Receipt where
  hash : String
  status : Int
  /-- The block, if the node numbers it. -/
  block : Option Int
  logs : Logs

def Receipt.confirmed (receipt : Receipt) : Bool :=
  receipt.status = 1

end Provisioning.Contract
