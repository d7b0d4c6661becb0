import Provisioning.Contract.Receipt
import Provisioning.Decimal.Arithmetic
import Provisioning.Script

/-!
# A node and what it answers

A node is asked by method and answers from a script: each call of a method takes
the next answer, and the last one stays. A method without an answer finds nobody at
the other end.
-/

namespace Provisioning.Contract

/-- How a call can fail to reach the node. -/
inductive LostCall where
  | connection
  | timeout
  | value
deriving DecidableEq

/-- One answer to a call. -/
inductive NodeAnswer where
  | result (value : Json)
  | error (error : Json)
  | lost (kind : LostCall) (text : String)

/-- The contracts that a session knows. -/
inductive Registry where
  | accountGateway
  | accountRegistry
  | keyGateway
  | keyRegistry
deriving DecidableEq

namespace Registry

def name : Registry → String
  | .accountGateway => "IdGateway"
  | .accountRegistry => "IdRegistry"
  | .keyGateway => "KeyGateway"
  | .keyRegistry => "KeyRegistry"

def ofName? : String → Option Registry
  | "IdGateway" => some .accountGateway
  | "IdRegistry" => some .accountRegistry
  | "KeyGateway" => some .keyGateway
  | "KeyRegistry" => some .keyRegistry
  | _ => none

def all : List Registry :=
  [.accountGateway, .accountRegistry, .keyGateway, .keyRegistry]

end Registry

/-- A connection to a node, for calls from one address. -/
structure Node where
  /-- The secret that transactions are signed with. -/
  secret : Nat
  address : String
  chainId : Int
  /-- How long a receipt is waited for, in seconds. -/
  timeout : Binary64
  /-- The addresses of the contracts. -/
  locate : Registry → Bytes
  /-- The answers that are still to come, by method. -/
  script : List (String × List NodeAnswer)

namespace Node

/-- Takes the next answer to a method. -/
def next (method : String) :
    List (String × List NodeAnswer) → NodeAnswer × List (String × List NodeAnswer)
  | [] => (.lost .connection "connection refused", [])
  | (name, answers) :: rest =>
    if name = method then
      (answers.head?.getD (.lost .connection "connection refused"),
        (name, Script.afterFirst answers) :: rest)
    else
      let (answer, rest) := next method rest
      (answer, (name, answers) :: rest)

end Node

end Provisioning.Contract
