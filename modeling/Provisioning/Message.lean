import Provisioning.Message.Data
import Provisioning.Signer.Delegated
import Provisioning.Crypto.Blake3

/-!
# Messages

A message is message data with its hash and a signature of the hash. The hash
names the message by its content: twenty bytes of BLAKE3 over the canonical text.
A message read from the wire keeps the bytes that it arrived with, and verifies
only if they are the canonical ones.
-/

namespace Provisioning

structure Message where
  data : MessageData
  hash : Bytes
  signature : Bytes
  signer : Bytes
  hashScheme : HashScheme
  signatureScheme : SignatureScheme
  /-- The encoding that the message arrived with, if it is known. -/
  received : Option Bytes

namespace Message

/-- The content address of encoded message data. -/
def contentHash (encoded : Bytes) : Bytes :=
  Blake3.hash 20 encoded

def sign (data : MessageData) (signer : DelegatedSigner) : Message :=
  let encoded := data.encode
  let hash := contentHash encoded
  ⟨data, hash, signer.sign hash, signer.publicKey, .blake3, .ed25519, some encoded⟩

/-- The bytes as they arrived, else the canonical ones. -/
def encodedData (message : Message) : Bytes :=
  message.received.getD message.data.encode

/-- The bytes are canonical, the hash is theirs, and the signature is the
signer's. -/
def verify (message : Message) : Bool :=
  let encoded := message.data.encode
  (message.received.all (· == encoded)) && contentHash encoded == message.hash &&
    Ed25519.verify message.signer message.hash message.signature

def toDocument (message : Message) : Json :=
  .obj [("data", message.data.toDocument),
    ("dataBytes", .str (Base64.encode message.encodedData)),
    ("hash", .str (Hex.marked message.hash)),
    ("hashScheme", .int message.hashScheme.code),
    ("signature", .str (Base64.encode message.signature)),
    ("signatureScheme", .int message.signatureScheme.code),
    ("signer", .str (Hex.marked message.signer))]

/-- The bytes of the wire document. -/
def toWire (message : Message) : Bytes :=
  message.toDocument.plainBytes

/-- Reads the document inside given bytes. -/
def readData (bytes : Bytes) : Except Fault Json :=
  match Json.readBytes bytes with
  | .ok document => .ok document
  | .error e => .error (.document e)

/-- Reads a wire document. The data come from the encoded bytes alone. -/
def ofDocument (document : Json) : Except Fault Message := do
  let received ← (← document.field "dataBytes").base64
  let data ← MessageData.ofDocument (← readData received)
  let hash ← (← document.field "hash").markedHex
  let signature ← (← document.field "signature").base64
  let signer ← (← document.field "signer").markedHex
  let hashScheme ← Json.member "HashScheme" HashScheme.ofCode?
    (← document.fieldD "hashScheme" (.int 1))
  let signatureScheme ← Json.member "SignatureScheme" SignatureScheme.ofCode?
    (← document.fieldD "signatureScheme" (.int 1))
  return ⟨data, hash, signature, signer, hashScheme, signatureScheme, some received⟩

/-- Equality by the worth of the values; the received bytes do not count. -/
def same (a b : Message) : Bool :=
  a.data.same b.data && a.hash == b.hash && a.signature == b.signature &&
    a.signer == b.signer && a.hashScheme.code == b.hashScheme.code &&
    a.signatureScheme.code == b.signatureScheme.code

end Message

end Provisioning
