import Provisioning.Proofs.Signer.KeyRequest

/-!
# Signed name proofs

A name proof is signed over the name, the time and the owner. A custody signer can sign one
for any name and any time that fits a word, as long as the owner is its own address, in
whatever letter case that is written (`UsernameProof.exists_proof`).
-/

namespace Provisioning.UsernameProof

open TypedData

theorem domain_hash : domain.hash = .ok (Keccak.hash domain.words) :=
  Domain.hash_eq _ _ (by decide) (by decide) (by decide +kernel)

/-- The words of a name proof: the hash of the name, the time and the owner. -/
def words (name : String) (timestamp : Int) (owner : Arg) : Bytes :=
  typeHash types "UserNameProof" ++ Keccak.hash (Utf8.encode name) ++
    Abi.word timestamp.toNat ++ (List.replicate 12 0 ++ (Abi.addressOf? owner).getD [])

variable {timestamp : Int}

theorem structHash_claim {owner : Arg} (name : String)
    (isTime : 0 ≤ timestamp ∧ timestamp < 2 ^ 256)
    (isOwner : (Abi.addressOf? owner).isSome = true) :
    structHash types "UserNameProof" (claim (.str name) (.int timestamp) owner) =
      .ok (Keccak.hash (words name timestamp owner)) := by
  obtain ⟨address, isOwner⟩ := Option.isSome_iff_exists.mp isOwner
  cases owner with
  | str _ | bytes _ =>
    simp [claim, words, types, structHash, encodeStruct, findType?, stepBound, TypedData.size,
      fieldSizes, encodeFields, Arg.find?, encodeMember, isArray, encodeElementary_string,
      encodeElementary_uint256 isTime, encodeElementary_address isOwner, isOwner, Except.map,
      bind, Except.bind, pure, Except.pure]
  | _ => cases isOwner

/-- The digest of a name proof is that of the name, the time and the owner, behind the hash
of the domain. -/
theorem digest_claim {owner : Arg} (name : String)
    (isTime : 0 ≤ timestamp ∧ timestamp < 2 ^ 256)
    (isOwner : (Abi.addressOf? owner).isSome = true) :
    digest domain types (claim (.str name) (.int timestamp) owner) =
      .ok (Keccak.hash (envelope domain.words (words name timestamp owner))) := by
  have primary : primaryType? types = some "UserNameProof" := by decide +kernel
  exact digest_of_structHash domain_hash primary (structHash_claim name isTime isOwner)

/-- A proof of a name and what makes it one: it is the custody key's signature of the digest
of just the name, the time and the owner, from which it recovers the custody address if the
curve gives the public key back. -/
structure IsProof (custody : CustodySigner) (name : String) (timestamp : Int) (owner : String)
    (signature hash : Bytes) : Prop where
  digested : digest domain types (claim (.str name) (.int timestamp) (.str owner)) = .ok hash
  signed : signature = CustodySigner.signatureBytes (Secp256k1.sign custody.secret hash)
  recovers : Secp256k1.Recovers custody.secret hash →
    TypedData.recover domain types (claim (.str name) (.int timestamp) (.str owner)) signature =
      .ok custody.address

/-- A custody signer signs the proof of any name of its own, at any time that fits a word. -/
theorem exists_proof {material : Arg} {custody : CustodySigner}
    (made : CustodySigner.ofKey material = .ok custody) (name : String)
    (isTime : 0 ≤ timestamp ∧ timestamp < 2 ^ 256)
    {owner : String} (own : Text.lower owner = Text.lower custody.address) :
    ∃ signature hash,
      sign custody (.str name) (.int timestamp) (.str owner) = .ok signature ∧
        IsProof custody name timestamp owner signature hash := by
  have keyed := CustodySigner.address_of_ofKey made
  have isOwner : (Abi.addressOf? (.str owner)).isSome = true := by
    rw [Abi.addressOf?, Address.ofText?_congr own, keyed,
      Address.ofText?_text (Address.length_ofPublicKey _), Option.isSome_some]
  have isDigest := digest_claim name isTime isOwner
  exact ⟨_, _, sign_of_digest isDigest, isDigest, rfl, recover_sign keyed isDigest⟩

end Provisioning.UsernameProof
