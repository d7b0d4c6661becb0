import Provisioning.Contract.Errand
import Provisioning.Contract.Interface

/-!
# Invocations

How a call of a contract's function is written for a node, and how what comes back
is read. Arguments that do not fit the function's parameters are a fault of the
caller; an address without its checksum is only found out when the call is made.
-/

namespace Provisioning.Contract

/-- The function of a contract, by names. -/
def functionNamed (contract function : String) : Except Fault (Registry × Function) :=
  match Registry.ofName? contract with
  | none => .error (.refusal (.unknownContract contract))
  | some registry =>
    match (Interface.of registry).function? function with
    | none => .error .function
    | some entry => .ok (registry, entry)

/-- The bytes that hexadecimal text behind a mark stands for. -/
def markedBytes? (text : String) : Option Bytes :=
  match text.toList with
  | '0' :: 'x' :: digits => Hex.decodeStrict? digits
  | _ => none

/-- An argument as its type takes it: marked hexadecimal text counts as bytes, and
an address with letters of both cases must have its checksum. -/
def fitting : Abi.Kind → Arg → Except Fault Arg
  | .bytes, .str text =>
    match markedBytes? text with
    | some bytes => .ok (.bytes bytes)
    | none => .error .arguments
  | .address, .str text =>
    match Address.ofSpelling? text with
    | some _ => .ok (.str text)
    | none => .error .arguments
  | _, arg => .ok arg

/-- The arguments as the parameters take them, one each. -/
def fittingAll : List Parameter → List Arg → Except Fault (List Arg)
  | [], [] => .ok []
  | parameter :: parameters, arg :: args =>
    match fitting parameter.kind arg, fittingAll parameters args with
    | .ok first, .ok others => .ok (first :: others)
    | _, _ => .error .arguments
  | _, _ => .error .arguments

namespace Function

def kinds (parameters : List Parameter) : List Abi.Kind :=
  parameters.map (·.kind)

/-- The signature of a function. -/
def signature (function : Function) : String :=
  function.name ++ (Abi.Kind.tuple (kinds function.inputs)).name

/-- The data of a call: the selector, then the arguments. -/
def callData (function : Function) (args : List Arg) : Except Fault Bytes :=
  let inputs := kinds function.inputs
  match fittingAll function.inputs args with
  | .error fault => .error fault
  | .ok args =>
    match Abi.encode inputs args with
    | .ok bytes => .ok (Abi.selector function.name inputs ++ bytes)
    | .error _ => .error .arguments

/-- What is said of an address that is not spelled with its checksum. -/
def spellingText (address : String) : String :=
  let advice :=
    if address = Text.lower address then
      "Web3.py only accepts checksum addresses. The software that gave you this " ++
        "non-checksum address should be considered unsafe, please file it as a bug on " ++
        "their platform. Try using an ENS name instead. Or, if you must accept lower " ++
        "safety, use Web3.to_checksum_address(lower_case_address)."
    else
      "Address has an invalid EIP-55 checksum. After looking up the address from the " ++
        "original source, try again."
  "(" ++ Text.quoted advice ++ ", " ++ Text.quoted address ++ ")"

/-- The first argument that is an address without its checksum. -/
def misspelled? (function : Function) (args : List Arg) : Option String :=
  (function.inputs.zip args).findSome? fun (parameter, arg) =>
    match parameter.kind, arg with
    | .address, .str text => if Address.isChecksummed text then none else some text
    | _, _ => none

/-- The types of the outputs, in quotes. -/
def outputNames (function : Function) : String :=
  (Json.arr ((kinds function.outputs).map fun kind => .str kind.name)).shown

/-- The values that a function returned: one by itself, several as a list. -/
def results (function : Function) (data : Bytes) : Option Arg :=
  match Abi.decode (kinds function.outputs) data with
  | .error _ => none
  | .ok [value] => some value
  | .ok values => some (.list values)

/-- What is said of returned data that do not fit the outputs. -/
def undecodableText (function : Function) (data : Bytes) : String :=
  s!"Could not decode contract function call to {function.signature} with return data: " ++
    s!"{Text.quotedBytes data}, output_types: {function.outputNames}"

end Function

/-- What is said of a contract that is not there. -/
def missingText : String :=
  "Could not transact with/call contract function, is contract deployed correctly and " ++
    "chain synced?"

end Provisioning.Contract
