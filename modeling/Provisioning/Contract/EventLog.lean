import Provisioning.Contract.Interface
import Provisioning.Json.Access

/-!
# Encoded events

A node reports an event as a list of topics and data: first the hash of the event's
signature, then one topic for each indexed parameter, and in the data the other
parameters. Entries that tell of another event, or that hold too little, are passed
over.
-/

namespace Provisioning.Contract

/-- The event of a contract, by names. -/
def eventNamed (contract event : String) : Except Fault EventType :=
  match Registry.ofName? contract with
  | none => .error (.refusal (.unknownContract contract))
  | some registry =>
    let interface := Interface.of registry
    if interface.events.isEmpty then .error .noEvents
    else
      match interface.event? event with
      | some entry => .ok entry
      | none => .error .event

namespace EventType

/-- The parameters that are topics. -/
def indexed (event : EventType) : List Parameter :=
  (event.parameters.filter (·.2)).map (·.1)

/-- The parameters that are in the data. -/
def plain (event : EventType) : List Parameter :=
  (event.parameters.filter (!·.2)).map (·.1)

/-- The first topic of the event. -/
def topic (event : EventType) : Bytes :=
  Keccak.hash (Utf8.encode
    (event.name ++ (Abi.Kind.tuple (event.parameters.map (·.1.kind))).name))

/-- The value of a topic; of what has no fixed size only a hash is there. -/
def topicValue (parameter : Parameter) (topic : Bytes) : Except AbiFault Arg :=
  if parameter.kind.isDynamic then .ok (.bytes topic)
  else Abi.decodeAt topic parameter.kind 0

/-- The arguments of an entry whose topics are as many as they should be. -/
def arguments (event : EventType) (topics : List Bytes) (data : Bytes) :
    Except AbiFault (List (String × Arg)) := do
  let values ← Abi.decode (event.plain.map (·.kind)) data
  let leading ← (event.indexed.zip topics).mapM fun (parameter, topic) =>
    topicValue parameter topic
  return (event.indexed.map (·.name)).zip leading ++ (event.plain.map (·.name)).zip values

end EventType

/-- Bytes of marked text. -/
def entryBytes : Json → Except Fault Bytes
  | .str text =>
    match Hex.decodePadded? text.toList with
    | some bytes => .ok bytes
    | none => .error .custodyDigits
  | other => .error (.kind s!"no bytes in '{other.kindName}'")

/-- The arguments of an entry, if it tells of the event. -/
def entryArguments? (event : EventType) (entry : Json) :
    Except Fault (Option (List (String × Arg))) := do
  let topics ← (← (← entry.field "topics").items).mapM entryBytes
  match topics with
  | [] => return none
  | first :: rest =>
    if first ≠ event.topic ∨ rest.length ≠ event.indexed.length then return none
    else
      match event.arguments rest (← entryBytes (← entry.field "data")) with
      | .ok args => return some args
      | .error .shortData => return none
      | .error fault => .error (.abi fault)

/-- The arguments of all entries that tell of the event, in order. -/
def eventArguments (event : EventType) (entries : List Json) :
    Except Fault (List (List (String × Arg))) := do
  return (← entries.mapM (entryArguments? event)).filterMap id

end Provisioning.Contract
