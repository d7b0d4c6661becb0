import Provisioning.Arg
import Provisioning.Crypto.Ed25519

/-!
# Delegated signers

A delegated signer is an Ed25519 key pair with the state of its authorization. Its
public key is a function of its seed, so it is stored with the proof that it is the
one. A signer is made from a seed, or from a secret of twice the length whose
second half, the public key, is left out of account.
-/

namespace Provisioning

/-- How far the authorization of a key has come. -/
inductive SignerState where
  | unregistered
  | pending
  | active
deriving DecidableEq

namespace SignerState

def name : SignerState → String
  | .unregistered => "UNREGISTERED"
  | .pending => "PENDING"
  | .active => "ACTIVE"

def ofName? : String → Option SignerState
  | "UNREGISTERED" => some .unregistered
  | "PENDING" => some .pending
  | "ACTIVE" => some .active
  | _ => none

end SignerState

structure DelegatedSigner where
  seed : Bytes
  state : SignerState
  publicKey : Bytes
  publicKey_eq : publicKey = Ed25519.publicKey seed

namespace DelegatedSigner

def ofSeed (seed : Bytes) (state : SignerState) : DelegatedSigner :=
  ⟨seed, state, Ed25519.publicKey seed, rfl⟩

/-- The seed in given key material: hexadecimal text with or without `0x`, or
bytes. -/
def seedOf : Arg → Except Fault Bytes
  | .str text =>
    let digits :=
      match text.toList with
      | '0' :: 'x' :: rest => rest
      | digits => digits
    match Hex.decode digits with
    | .ok bytes => ofLength bytes
    | .error position => .error (.hex position)
  | .bytes bytes => ofLength bytes
  | .list items =>
    if items.length = 32 ∨ items.length = 64 then .error (.kind "a seed is a byte string")
    else .error (.refusal .seedLength)
  | .record fields =>
    if fields.length = 32 ∨ fields.length = 64 then .error (.kind "a seed is a byte string")
    else .error (.refusal .seedLength)
  | other => .error (.kind s!"object of type '{other.kindName}' has no len()")
where
  /-- A seed has 32 bytes; of a secret of 64 the first half counts. -/
  ofLength (bytes : Bytes) : Except Fault Bytes :=
    if bytes.length = 64 then .ok (bytes.take 32)
    else if bytes.length = 32 then .ok bytes
    else .error (.refusal .seedLength)

/-- A signer from key material. -/
def ofKey (key : Arg) (state : SignerState) : Except Fault DelegatedSigner :=
  (seedOf key).map (ofSeed · state)

def isActive (signer : DelegatedSigner) : Bool :=
  signer.state = .active

def mark (signer : DelegatedSigner) (state : SignerState) : DelegatedSigner :=
  { signer with state }

/-- A signature of 64 bytes. -/
def sign (signer : DelegatedSigner) (message : Bytes) : Bytes :=
  Ed25519.sign signer.seed message

/-- The public key behind its mark. -/
def keyText (signer : DelegatedSigner) : String :=
  Hex.marked signer.publicKey

/-- The text of a signer: its public key and its state, never its seed. -/
def text (signer : DelegatedSigner) : String :=
  s!"DelegatedSigner({signer.keyText}, {signer.state.name})"

end DelegatedSigner

end Provisioning
