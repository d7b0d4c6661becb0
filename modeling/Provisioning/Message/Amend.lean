import Provisioning.Message

/-!
# Amended messages

A message with one field replaced and the others kept: what somebody between the
signer and the hub could make of it. Nothing is computed again, so that
`Message.verify` tells whether the change is noticed.
-/

namespace Provisioning

/-- Replaces a field of message data by name; a body is replaced elsewhere. -/
def MessageData.amend (data : MessageData) (field : String) (value : Json) : MessageData :=
  let code := value.integer?.getD 0
  match field with
  | "fid" => { data with account := value }
  | "timestamp" => { data with timestamp := value }
  | "network" => { data with network := Network.ofCode code }
  | "type" => { data with type := MessageType.ofCode code }
  | _ => data

namespace Message

/-- Replaces bytes of a message by name; no bytes drop the encoding that it arrived
with. -/
def amendBytes (message : Message) (field : String) (value : Option Bytes) : Message :=
  match field, value with
  | "hash", some bytes => { message with hash := bytes }
  | "signature", some bytes => { message with signature := bytes }
  | "signer", some bytes => { message with signer := bytes }
  | "data_bytes", _ => { message with received := value }
  | _, _ => message

/-- Replaces a scheme of a message by name. -/
def amendScheme (message : Message) (field : String) (code : Int) : Message :=
  match field with
  | "hash_scheme" => { message with hashScheme := HashScheme.ofCode code }
  | "signature_scheme" => { message with signatureScheme := SignatureScheme.ofCode code }
  | _ => message

end Message

end Provisioning
