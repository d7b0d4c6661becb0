import Provisioning.Contract.Node
import Provisioning.Ethereum.Abi

/-!
# Interfaces of the contracts

The functions and the events of each contract, with the types of their parameters.
`Interface.document` writes an interface in the usual JSON form.
-/

namespace Provisioning.Contract

structure Parameter where
  name : String
  kind : Abi.Kind
  /-- The names of the members, if the type is a tuple. -/
  members : List String

structure Function where
  name : String
  inputs : List Parameter
  outputs : List Parameter
  mutability : String

/-- An event; a parameter marked true is a topic of its own. -/
structure EventType where
  name : String
  parameters : List (Parameter × Bool)

structure Interface where
  functions : List Function
  events : List EventType

namespace Interface

def plain (name : String) (kind : Abi.Kind) : Parameter := ⟨name, kind, []⟩

def accountGateway : Interface where
  functions :=
    [⟨"price", [], [plain "" (.uint 256)], "view"⟩,
      ⟨"register", [plain "recovery" .address],
        [plain "fid" (.uint 256), plain "overpayment" (.uint 256)], "payable"⟩]
  events := []

def accountRegistry : Interface where
  functions := [⟨"idOf", [plain "owner" .address], [plain "fid" (.uint 256)], "view"⟩]
  events :=
    [⟨"Register", [(plain "to" .address, true), (plain "id" (.uint 256), true),
      (plain "recovery" .address, false)]⟩]

def keyGateway : Interface where
  functions :=
    [⟨"add", [plain "keyType" (.uint 32), plain "key" .bytes, plain "metadataType" (.uint 8),
      plain "metadata" .bytes], [], "nonpayable"⟩]
  events := []

def keyRegistry : Interface where
  functions :=
    [⟨"keyDataOf", [plain "fid" (.uint 256), plain "key" .bytes],
      [⟨"", .tuple [.uint 8, .uint 32], ["state", "keyType"]⟩], "view"⟩]
  events :=
    [⟨"Add", [(plain "fid" (.uint 256), true), (plain "keyType" (.uint 32), true),
      (plain "key" .bytes, true), (plain "keyBytes" .bytes, false),
      (plain "metadataType" (.uint 8), false), (plain "metadata" .bytes, false)]⟩]

/-- The interface of a contract. -/
def of : Registry → Interface
  | .accountGateway => accountGateway
  | .accountRegistry => accountRegistry
  | .keyGateway => keyGateway
  | .keyRegistry => keyRegistry

/-! ## Documents -/

def parameterFields (parameter : Parameter) : List (String × Json) :=
  let fields := [("name", Json.str parameter.name)]
  match parameter.kind with
  | .tuple kinds =>
    let component (name : String) (kind : Abi.Kind) : Json :=
      .obj [("name", .str name), ("type", .str kind.name)]
    fields ++ [("type", .str "tuple"),
      ("components", .arr (List.zipWith component parameter.members kinds))]
  | kind => fields ++ [("type", .str kind.name)]

def functionDocument (function : Function) : Json :=
  .obj [("type", .str "function"), ("name", .str function.name),
    ("stateMutability", .str function.mutability),
    ("inputs", .arr (function.inputs.map fun p => .obj (parameterFields p))),
    ("outputs", .arr (function.outputs.map fun p => .obj (parameterFields p)))]

def eventDocument (event : EventType) : Json :=
  .obj [("type", .str "event"), ("name", .str event.name), ("anonymous", .bool false),
    ("inputs", .arr (event.parameters.map fun (p, indexed) =>
      .obj (parameterFields p ++ [("indexed", .bool indexed)])))]

def document (interface : Interface) : Json :=
  .arr (interface.functions.map functionDocument ++ interface.events.map eventDocument)

/-- The document of a contract's interface, by the contract's name. -/
def load (name : String) : Except Fault Json :=
  match Registry.ofName? name with
  | some registry => .ok (of registry).document
  | none => .error .file

def function? (interface : Interface) (name : String) : Option Function :=
  interface.functions.find? (·.name == name)

def event? (interface : Interface) (name : String) : Option EventType :=
  interface.events.find? (·.name == name)

end Interface

end Provisioning.Contract
