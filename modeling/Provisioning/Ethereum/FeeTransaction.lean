import Provisioning.Crypto.Keccak
import Provisioning.Crypto.Secp256k1
import Provisioning.Ethereum.Rlp

/-!
# Transactions that offer a fee

A transaction of type two names the fee it offers above the base fee and the most it
pays at all. Its fields are encoded as one list behind a byte with the type; the
signature of the hash of these bytes goes to the end of the list.
-/

namespace Provisioning

structure FeeTransaction where
  chainId : Nat
  nonce : Nat
  /-- What is offered above the base fee, for each unit of gas. -/
  priorityFee : Nat
  /-- The most that is paid, for each unit of gas. -/
  maxFee : Nat
  gas : Nat
  target : Bytes
  value : Nat
  data : Bytes

namespace FeeTransaction

/-- The byte that names the type of the transaction. -/
def typeByte : UInt8 := 2

/-- The signed fields; the list of addresses to be warmed up is empty. -/
def fields (transaction : FeeTransaction) : List Rlp :=
  [.natural transaction.chainId, .natural transaction.nonce,
    .natural transaction.priorityFee, .natural transaction.maxFee,
    .natural transaction.gas, .bytes transaction.target, .natural transaction.value,
    .bytes transaction.data, .list []]

/-- The hash that is signed. -/
def digest (transaction : FeeTransaction) : Bytes :=
  Keccak.hash (typeByte :: (Rlp.list transaction.fields).encode)

/-- The fields of a signature: the parity, then the two residues. -/
def signatureFields (signature : Secp256k1.Signature) : List Rlp :=
  [.natural (if signature.odd then 1 else 0), .natural signature.r, .natural signature.s]

/-- The signed transaction as it is sent. -/
def signed (transaction : FeeTransaction) (secret : Nat) : Bytes :=
  let signature := Secp256k1.sign secret transaction.digest
  typeByte :: (Rlp.list (transaction.fields ++ signatureFields signature)).encode

end FeeTransaction

end Provisioning
