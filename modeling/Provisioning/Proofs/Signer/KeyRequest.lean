import Provisioning.Proofs.Crypto.Signatures
import Provisioning.Proofs.Except
import Provisioning.Proofs.Ethereum.Abi
import Provisioning.Signer.Custody

/-!
# Signed key requests

A key request is signed over the account, the key and the deadline
(`KeyRequest.digest_claim`, `TypedData.sign_of_digest`), and its signature recovers the
custody address if the curve gives the public key back (`TypedData.recover_sign`). The
metadata that carry the signature are decoded as the account, the address, the signature
and the deadline (`KeyRequest.decode_metadata`). `KeyRequest.exists_request` puts these
together.
-/

namespace Provisioning

/-! ## Signatures -/

namespace Secp256k1

theorem n_pos : 0 < n := by decide

theorem signAt?_lt {secret digest nonce : Nat} {point : Point} {signature : Signature}
    (signed : signAt? secret digest nonce point = some signature) :
    signature.r < n ∧ signature.s < n := by
  unfold signAt? at signed
  split at signed
  · cases signed
  next x y _ =>
  dsimp only at signed
  split at signed
  · cases signed
  have lowR := Nat.mod_lt x n_pos
  have lowS := Nat.mod_lt (Modular.inverse n nonce * (digest + x % n * secret)) n_pos
  split at signed
  · cases signed
    refine ⟨lowR, ?_⟩
    dsimp only
    omega
  · cases signed
    exact ⟨lowR, lowS⟩

theorem signWith?_lt {secret digest nonce : Nat} {signature : Signature}
    (signed : signWith? secret digest nonce = some signature) :
    signature.r < n ∧ signature.s < n := by
  unfold signWith? at signed
  split at signed
  · cases signed
  · exact signAt?_lt signed

theorem signFrom_lt (tries : Nat) (state : NonceState) (secret digest : Nat) :
    (signFrom tries state secret digest).r < n ∧ (signFrom tries state secret digest).s < n := by
  induction tries generalizing state with
  | zero => exact ⟨n_pos, n_pos⟩
  | succ tries ih =>
    unfold signFrom
    dsimp only
    split
    · next signed => exact signWith?_lt signed
    · exact ih _

end Secp256k1

namespace CustodySigner

variable {custody : CustodySigner}

theorem length_signatureBytes (signature : Secp256k1.Signature) :
    (signatureBytes signature).length = 65 := by
  simp [signatureBytes]

/-- A custody signer that a key makes has the address of the key. -/
theorem address_of_ofBytes {bytes : Bytes} (made : ofBytes bytes = .ok custody) :
    custody.address = Address.text (Address.ofPublicKey (Secp256k1.publicKey custody.secret)) := by
  unfold ofBytes at made
  dsimp only at made
  split at made
  · cases made
    rfl
  · cases made

theorem address_of_ofKey {key : Arg} (made : ofKey key = .ok custody) :
    custody.address = Address.text (Address.ofPublicKey (Secp256k1.publicKey custody.secret)) := by
  unfold ofKey at made
  split at made
  · split at made
    · exact address_of_ofBytes made
    · cases made
  · exact address_of_ofBytes made
  · split at made
    · cases made
    · exact address_of_ofBytes made
  · exact address_of_ofBytes made
  · cases made

end CustodySigner

namespace TypedData

theorem recover_of_digest {domain : Domain} {types : Types} {value : Arg} {hash : Bytes}
    (isDigest : digest domain types value = .ok hash) (signature : Bytes) :
    recover domain types value signature = recoverDigest hash signature := by
  rw [recover, isDigest]
  rfl

/-- The bytes of a signature stand for the signature. -/
theorem recoverDigest_signatureBytes {signature : Secp256k1.Signature}
    (small : signature.r < Secp256k1.n ∧ signature.s < Secp256k1.n) (digest : Bytes) :
    recoverDigest digest (CustodySigner.signatureBytes signature) =
      match Secp256k1.recover? signature digest with
      | some key => .ok (Address.text (Address.ofPublicKey key))
      | none => .error (.signature .noPoint) := by
  have below : Secp256k1.n < 256 ^ 32 := by decide
  have last : (CustodySigner.signatureBytes signature).getLast? =
      some (if signature.odd then 28 else 27) := by
    simp [CustodySigner.signatureBytes]
  have isR : Bytes.toNat ((CustodySigner.signatureBytes signature).take 32) = signature.r := by
    rw [CustodySigner.signatureBytes, List.append_assoc,
      List.take_left' (Bytes.length_bigEndian 32 _), Bytes.toNat_bigEndian (by omega)]
  have isS : Bytes.toNat (((CustodySigner.signatureBytes signature).drop 32).take 32) =
      signature.s := by
    rw [CustodySigner.signatureBytes, List.append_assoc,
      List.drop_left' (Bytes.length_bigEndian 32 _),
      List.take_left' (Bytes.length_bigEndian 32 _), Bytes.toNat_bigEndian (by omega)]
  have parity : parity? (if signature.odd then (28 : UInt8) else 27).toNat =
      some signature.odd := by
    cases signature.odd <;> rfl
  have inRange : ¬(Secp256k1.n ≤ signature.r ∨ Secp256k1.n ≤ signature.s) := by omega
  simp only [recoverDigest, last, parity, CustodySigner.length_signatureBytes, isR, isS,
    if_neg inRange]
  rfl

/-- What is signed recovers the address of the secret, if the curve gives the public key
back. -/
theorem recoverDigest_sign {secret : Nat} {digest : Bytes}
    (recovers : Secp256k1.Recovers secret digest) :
    recoverDigest digest (CustodySigner.signatureBytes (Secp256k1.sign secret digest)) =
      .ok (Address.text (Address.ofPublicKey (Secp256k1.publicKey secret))) := by
  have small : (Secp256k1.sign secret digest).r < Secp256k1.n ∧
      (Secp256k1.sign secret digest).s < Secp256k1.n := Secp256k1.signFrom_lt _ _ _ _
  rw [Secp256k1.Recovers] at recovers
  rw [recoverDigest_signatureBytes small, recovers]

section Signing

variable {custody : CustodySigner} {domain : Domain} {types : Types} {value : Arg} {hash : Bytes}

/-- Typed data are signed by the signature of their digest. -/
theorem sign_of_digest (isDigest : digest domain types value = .ok hash) :
    custody.signTypedData domain types value =
      .ok (CustodySigner.signatureBytes (Secp256k1.sign custody.secret hash)) := by
  rw [CustodySigner.signTypedData, isDigest, Except.map]

/-- The signature of typed data recovers the custody address, if the curve gives the public
key back. -/
theorem recover_sign
    (keyed : custody.address =
      Address.text (Address.ofPublicKey (Secp256k1.publicKey custody.secret)))
    (isDigest : digest domain types value = .ok hash)
    (recovers : Secp256k1.Recovers custody.secret hash) :
    recover domain types value
      (CustodySigner.signatureBytes (Secp256k1.sign custody.secret hash)) =
        .ok custody.address := by
  rw [recover_of_digest isDigest, recoverDigest_sign recovers, keyed]

end Signing

/-- What is signed of a value: the hash of its words, behind that of the words of its domain. -/
def envelope (place words : Bytes) : Bytes :=
  0x19 :: 0x01 :: Keccak.hash place ++ Keccak.hash words

theorem digest_of_structHash {domain : Domain} {types : Types} {value : Arg} {type : String}
    {place words : Bytes} (isPlace : domain.hash = .ok (Keccak.hash place))
    (primary : primaryType? types = some type)
    (isHash : structHash types type value = .ok (Keccak.hash words)) :
    digest domain types value = .ok (Keccak.hash (envelope place words)) := by
  simp only [digest, preimage, isPlace, primary, isHash, bind, Except.bind, pure, Except.pure,
    Except.map, envelope]

/-! ## Elementary members -/

theorem encodeElementary_uint256 {number : Int} (small : 0 ≤ number ∧ number < 2 ^ 256) :
    encodeElementary "uint256" (.int number) = .ok (Abi.word number.toNat) := by
  have kind : wordKind? "uint256" = some (.uint 256) := rfl
  have encoded : Abi.encodeValue (.uint 256) (.int number) = .ok (Abi.word number.toNat) :=
    if_pos small
  simp [encodeElementary, kind, encodeWord, encoded]

theorem encodeElementary_bytes (bytes : Bytes) :
    encodeElementary "bytes" (.bytes bytes) = .ok (Keccak.hash bytes) := rfl

theorem encodeElementary_string (text : String) :
    encodeElementary "string" (.str text) = .ok (Keccak.hash (Utf8.encode text)) := rfl

theorem encodeElementary_address {owner : Arg} {address : Bytes}
    (isAddress : Abi.addressOf? owner = some address) :
    encodeElementary "address" owner = .ok (List.replicate 12 0 ++ address) := by
  have kind : wordKind? "address" = some .address := rfl
  have encoded : Abi.encodeValue .address owner = .ok (List.replicate 12 0 ++ address) := by
    rw [Abi.encodeValue, isAddress]
  simp [encodeElementary, kind, encodeWord, encoded]

/-- The words of a domain that has all its parts: the hashes of the name and the version, the
number of the chain and the contract. -/
def Domain.words (domain : Domain) : Bytes :=
  match domain with
  | ⟨.str name, .str version, .int chainId, .str contract⟩ =>
    typeHash domain.types "EIP712Domain" ++ Keccak.hash (Utf8.encode name) ++
      Keccak.hash (Utf8.encode version) ++ Abi.word chainId.toNat ++
      (List.replicate 12 0 ++ (Address.ofText? contract).getD [])
  | _ => []

/-- A domain with all its parts has a hash, that of its words. -/
theorem Domain.hash_eq {chainId : Int} {contract : String} (name version : String)
    (isNumber : 0 ≤ chainId ∧ chainId < 2 ^ 256) (given : contract ≠ "")
    (isAddress : (Address.ofText? contract).isSome = true) :
    Domain.hash ⟨.str name, .str version, .int chainId, .str contract⟩ =
      .ok (Keccak.hash (words ⟨.str name, .str version, .int chainId, .str contract⟩)) := by
  obtain ⟨address, isAddress⟩ := Option.isSome_iff_exists.mp isAddress
  have isOwner : Abi.addressOf? (.str contract) = some address := isAddress
  simp [Domain.hash, Domain.words, Domain.types, Domain.fields, truthy, given, structHash,
    encodeStruct, findType?, stepBound, TypedData.size, fieldSizes, encodeFields, Arg.find?,
    encodeMember, isArray, encodeElementary_string, encodeElementary_uint256 isNumber,
    encodeElementary_address isOwner, isAddress, Except.map, bind, Except.bind, pure, Except.pure]

end TypedData

/-! ## Key requests -/

namespace KeyRequest

open TypedData

theorem domain_hash : domain.hash = .ok (Keccak.hash domain.words) :=
  Domain.hash_eq _ _ (by decide) (by decide) (by decide +kernel)

/-- The words of a request: the account, the hash of the key, and the deadline. -/
def words (account : Int) (key : Bytes) (deadline : Int) : Bytes :=
  typeHash types "SignedKeyRequest" ++ Abi.word account.toNat ++ Keccak.hash key ++
    Abi.word deadline.toNat

theorem structHash_claim {account deadline : Int} (key : Bytes)
    (isAccount : 0 ≤ account ∧ account < 2 ^ 256)
    (isDeadline : 0 ≤ deadline ∧ deadline < 2 ^ 256) :
    structHash types "SignedKeyRequest" (claim (.int account) key (.int deadline)) =
      .ok (Keccak.hash (words account key deadline)) := by
  simp [claim, words, types, structHash, encodeStruct, findType?, stepBound, TypedData.size,
    fieldSizes, encodeFields, Arg.find?, encodeMember, isArray,
    encodeElementary_uint256 isAccount, encodeElementary_uint256 isDeadline,
    encodeElementary_bytes, Except.map, bind, Except.bind, pure, Except.pure]

/-- The digest of a request is that of the account, the key and the deadline, behind the
hash of the domain. -/
theorem digest_claim {account deadline : Int} (key : Bytes)
    (isAccount : 0 ≤ account ∧ account < 2 ^ 256)
    (isDeadline : 0 ≤ deadline ∧ deadline < 2 ^ 256) :
    digest domain types (claim (.int account) key (.int deadline)) =
      .ok (Keccak.hash (envelope domain.words (words account key deadline))) := by
  have primary : primaryType? types = some "SignedKeyRequest" := by decide +kernel
  exact digest_of_structHash domain_hash primary (structHash_claim key isAccount isDeadline)

/-- The parts of a request's metadata fit their types. -/
theorem fits_metadata {account deadline : Int} {address : Bytes} (signature : Bytes)
    (isAccount : 0 ≤ account ∧ account < 2 ^ 256)
    (isDeadline : 0 ≤ deadline ∧ deadline < 2 ^ 256) (sized : address.length = 20) :
    Abi.FitAll metadataKinds
      [.list [.int account, .str (Address.text address), .bytes signature, .int deadline]] :=
  ⟨⟨nofun, ⟨rfl, Nat.le_refl 256, isAccount⟩, ⟨address, sized, rfl⟩, trivial,
    ⟨rfl, Nat.le_refl 256, isDeadline⟩, trivial⟩, trivial⟩

/-- The words of a request's metadata: a pointer to the tuple, its head with a pointer to
the signature, and the signature behind it. -/
theorem encode_metadata {account deadline : Int} {address : Bytes} (signature : Bytes)
    (isAccount : 0 ≤ account ∧ account < 2 ^ 256)
    (isDeadline : 0 ≤ deadline ∧ deadline < 2 ^ 256) (sized : address.length = 20) :
    Abi.encode metadataKinds
        [.list [.int account, .str (Address.text address), .bytes signature, .int deadline]] =
      .ok (Abi.word 32 ++ (Abi.word account.toNat ++ (List.replicate 12 0 ++ address) ++
        Abi.word 128 ++ Abi.word deadline.toNat ++ Abi.counted signature)) := by
  have first : Abi.encodeValue (.uint 256) (.int account) = .ok (Abi.word account.toNat) :=
    if_pos isAccount
  have second : Abi.encodeValue .address (.str (Address.text address)) =
      .ok (List.replicate 12 0 ++ address) := by
    rw [Abi.encodeValue, Abi.addressOf?, Address.ofText?_text sized]
  have third : Abi.encodeValue .bytes (.bytes signature) = .ok (Abi.counted signature) := rfl
  have fourth : Abi.encodeValue (.uint 256) (.int deadline) = .ok (Abi.word deadline.toNat) :=
    if_pos isDeadline
  have inner : Abi.encodeValue (.tuple [.uint 256, .address, .bytes, .uint 256])
      (.list [.int account, .str (Address.text address), .bytes signature, .int deadline]) =
      .ok (Abi.word account.toNat ++ (List.replicate 12 0 ++ address) ++ Abi.word 128 ++
        Abi.word deadline.toNat ++ Abi.counted signature) := by
    rw [Abi.encodeValue]
    simp only [Abi.encodeParts, first, second, third, fourth, Abi.Kind.isDynamic, if_true,
      Bool.false_eq_true, if_false, Except.map, List.append_nil, List.append_assoc]
    rfl
  rw [Abi.encode, metadataKinds, Abi.encodeValue]
  simp only [Abi.encodeParts, inner, Abi.Kind.isDynamic, Abi.anyDynamic, Except.map,
    Bool.false_or, Bool.true_or, if_true, List.append_nil]
  rfl

/-- The metadata of a request are decoded as what was asked for. -/
theorem decode_metadata {account deadline : Int} {address signature : Bytes}
    (isAccount : 0 ≤ account ∧ account < 2 ^ 256)
    (isDeadline : 0 ≤ deadline ∧ deadline < 2 ^ 256) (sized : address.length = 20)
    (short : signature.length < 2 ^ 255) :
    ∃ bytes,
      metadata (.int account) (.str (Address.text address)) signature (.int deadline) =
        .ok bytes ∧
      Abi.decode metadataKinds bytes =
        .ok [.list [.int account, .str (Address.text address), .bytes signature,
          .int deadline]] := by
  have encoded := encode_metadata signature isAccount isDeadline sized
  refine ⟨_, ?_, Abi.decode_encode (fits_metadata signature isAccount isDeadline sized) encoded ?_⟩
  · rw [metadata, encoded]
  · simp only [Abi.counted, List.length_append, List.length_replicate, Abi.length_word,
      Abi.length_padded, sized]
    omega

variable {custody : CustodySigner} {account deadline : Arg} {key hash : Bytes}

/-- A request for a key and what carries it. The metadata are decoded as the account, the
custody address, the signature and the deadline. The signature is the custody key's, of the
digest of just the account, the key and the deadline, from which it recovers the custody
address if the curve gives the public key back. -/
structure IsRequest (custody : CustodySigner) (account : Int) (key : Bytes) (deadline : Int)
    (metadata signature hash : Bytes) : Prop where
  decoded : Abi.decode metadataKinds metadata =
    .ok [.list [.int account, .str custody.address, .bytes signature, .int deadline]]
  digested : digest domain types (claim (.int account) key (.int deadline)) = .ok hash
  signed : signature = CustodySigner.signatureBytes (Secp256k1.sign custody.secret hash)
  recovers : Secp256k1.Recovers custody.secret hash →
    TypedData.recover domain types (claim (.int account) key (.int deadline)) signature =
      .ok custody.address

theorem IsRequest.signature_ne_nil {custody : CustodySigner} {account deadline : Int}
    {key metadata signature hash : Bytes}
    (request : IsRequest custody account key deadline metadata signature hash) :
    signature ≠ [] := by
  have sized := CustodySigner.length_signatureBytes (Secp256k1.sign custody.secret hash)
  rw [← request.signed] at sized
  exact List.ne_nil_of_length_eq_add_one sized

/-- A custody signer signs a request for any account and deadline that fit a word. -/
theorem exists_request {material : Arg} {custody : CustodySigner} {account deadline : Int}
    (made : CustodySigner.ofKey material = .ok custody) (key : Bytes)
    (isAccount : 0 ≤ account ∧ account < 2 ^ 256)
    (isDeadline : 0 ≤ deadline ∧ deadline < 2 ^ 256) :
    ∃ metadata signature hash,
      sign custody (.int account) key (.int deadline) = .ok signature ∧
      KeyRequest.metadata (.int account) (.str custody.address) signature (.int deadline) =
        .ok metadata ∧
      IsRequest custody account key deadline metadata signature hash := by
  have isDigest := digest_claim key isAccount isDeadline
  generalize Keccak.hash _ = hash at isDigest
  have keyed := CustodySigner.address_of_ofKey made
  have short : (CustodySigner.signatureBytes (Secp256k1.sign custody.secret hash)).length <
      2 ^ 255 := by
    rw [CustodySigner.length_signatureBytes]
    decide
  obtain ⟨metadata, encoded, decoded⟩ := decode_metadata isAccount isDeadline
    (Address.length_ofPublicKey (Secp256k1.publicKey custody.secret)) short
  rw [← keyed] at encoded decoded
  exact ⟨metadata, _, hash, sign_of_digest isDigest, encoded, decoded, isDigest, rfl,
    recover_sign keyed isDigest⟩

end KeyRequest

end Provisioning
