import Provisioning.Crypto.Secp256k1
import Provisioning.Ethereum.TypedData

/-!
# Custody signers

The custody key owns an account. It signs two kinds of claim and nothing else: that
a key may sign for an account, and that a name belongs to an owner. The domains
keep the two apart. `recover` names the address that signed typed data.
-/

namespace Provisioning

/-- The owner's key: a secp256k1 secret and the address that goes with it. -/
structure CustodySigner where
  secret : Nat
  address : String

namespace CustodySigner

/-- The signer of a secret of 32 bytes. -/
def ofBytes (bytes : Bytes) : Except Fault CustodySigner :=
  let secret := Bytes.toNat bytes
  if bytes.length = 32 ∧ 0 < secret ∧ secret < Secp256k1.n then
    .ok ⟨secret, Address.text (Address.ofPublicKey (Secp256k1.publicKey secret))⟩
  else .error (.custodyLength bytes.length)

/-- A signer from key material: hexadecimal text, bytes, or the number they write. -/
def ofKey : Arg → Except Fault CustodySigner
  | .str text =>
    match Hex.decodePadded? text.toList with
    | some bytes => ofBytes bytes
    | none => .error .custodyDigits
  | .bytes bytes => ofBytes bytes
  | .int n => if n < 0 then .error .custodyNegative else ofBytes (TypedData.naturalBytes n.toNat)
  | .bool b => ofBytes [if b then 1 else 0]
  | other => .error (.kind s!"cannot convert '{other.kindName}' to a key")

/-- The 65 bytes of a signature: the two residues and 27 or 28. -/
def signatureBytes (signature : Secp256k1.Signature) : Bytes :=
  Bytes.bigEndian 32 signature.r ++ Bytes.bigEndian 32 signature.s ++
    [if signature.odd then 28 else 27]

def signTypedData (custody : CustodySigner) (domain : TypedData.Domain)
    (types : TypedData.Types) (value : Arg) : Except Fault Bytes :=
  (TypedData.digest domain types value).map fun digest =>
    signatureBytes (Secp256k1.sign custody.secret digest)

end CustodySigner

/-! ## Claims -/

namespace KeyRequest

/-- Key requests hold at their validator on the chain with the number ten. -/
def domain : TypedData.Domain where
  name := .str "Farcaster SignedKeyRequestValidator"
  version := .str "1"
  chainId := .int 10
  verifyingContract := .str "0x00000000fc700472606ed4fa22623acf62c60553"

def types : TypedData.Types :=
  [("SignedKeyRequest",
    [⟨"requestFid", "uint256"⟩, ⟨"key", "bytes"⟩, ⟨"deadline", "uint256"⟩])]

/-- The claim that a key may sign for an account, good until a deadline. -/
def claim (account : Arg) (key : Bytes) (deadline : Arg) : Arg :=
  .record [("requestFid", account), ("key", .bytes key), ("deadline", deadline)]

def sign (custody : CustodySigner) (account : Arg) (key : Bytes) (deadline : Arg) :
    Except Fault Bytes :=
  custody.signTypedData domain types (claim account key deadline)

/-- The types of the metadata that go with a key. -/
def metadataKinds : List Abi.Kind :=
  [.tuple [.uint 256, .address, .bytes, .uint 256]]

/-- The metadata of a key: who asks for which account, with the signature of the
request and its deadline. -/
def metadata (account signer : Arg) (signature : Bytes) (deadline : Arg) :
    Except Fault Bytes :=
  match Abi.encode metadataKinds [.list [account, signer, .bytes signature, deadline]] with
  | .ok bytes => .ok bytes
  | .error fault => .error (.abi fault)

end KeyRequest

namespace UsernameProof

/-- Name proofs hold at their verifier on the chain with the number one. -/
def domain : TypedData.Domain where
  name := .str "Farcaster name verification"
  version := .str "1"
  chainId := .int 1
  verifyingContract := .str "0xe3be01d99baa8db9905b33a3ca391238234b79d1"

def types : TypedData.Types :=
  [("UserNameProof",
    [⟨"name", "string"⟩, ⟨"timestamp", "uint256"⟩, ⟨"owner", "address"⟩])]

/-- The claim that a name belongs to an owner from some time on. -/
def claim (name timestamp owner : Arg) : Arg :=
  .record [("name", name), ("timestamp", timestamp), ("owner", owner)]

def sign (custody : CustodySigner) (name timestamp owner : Arg) : Except Fault Bytes :=
  custody.signTypedData domain types (claim name timestamp owner)

end UsernameProof

/-! ## Recovery -/

namespace TypedData

/-- The parity that the last byte of a signature tells. -/
def parity? (byte : Nat) : Option Bool :=
  if byte = 0 ∨ byte = 27 then some false
  else if byte = 1 ∨ byte = 28 then some true
  else if 35 ≤ byte then some ((byte - 35) % 2 == 1)
  else none

/-- The address whose signature of a digest this is. -/
def recoverDigest (digest signature : Bytes) : Except Fault String :=
  match signature.getLast? with
  | none => .error (.signature .empty)
  | some last =>
    match parity? last.toNat with
    | none => .error (.signature .recoveryByte)
    | some odd =>
      if signature.length ≠ 65 then .error (.signature .length)
      else
        let r := Bytes.toNat (signature.take 32)
        let s := Bytes.toNat ((signature.drop 32).take 32)
        if Secp256k1.n ≤ r ∨ Secp256k1.n ≤ s then .error (.signature .outOfRange)
        else
          match Secp256k1.recover? ⟨r, s, odd⟩ digest with
          | some key => .ok (Address.text (Address.ofPublicKey key))
          | none => .error (.signature .noPoint)

/-- The address that signed typed data. -/
def recover (domain : Domain) (types : Types) (value : Arg) (signature : Bytes) :
    Except Fault String := do
  recoverDigest (← digest domain types value) signature

end TypedData

end Provisioning
