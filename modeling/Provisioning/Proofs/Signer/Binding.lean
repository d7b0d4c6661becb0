import Provisioning.Proofs.Signer.NameProof

/-!
# What a custody signature binds

A custody key signs key requests and name proofs. The digest that it signs is a hash over
hashes: the member of no fixed length is hashed into a word, the words of the claim and those
of its domain are hashed, and the envelope around these two hashes is hashed again. Words are
found at fixed places, so two claims with one digest are the same claim, unless Keccak-256
collides at one of these layers (`CustodyClaim.digest_binds`). A request and a proof hold on
different chains, which the words of their domains tell.
-/

namespace Provisioning

/-! ## Layers of hashes -/

/-- Two different inputs that have one hash. -/
def Keccak.Collide (bytes other : Bytes) : Prop :=
  bytes ≠ other ∧ Keccak.hash bytes = Keccak.hash other

theorem Keccak.eq_or_collide {bytes other : Bytes}
    (same : Keccak.hash bytes = Keccak.hash other) : bytes = other ∨ Collide bytes other :=
  (Classical.em (bytes = other)).imp_right fun differ => ⟨differ, same⟩

theorem Abi.word_inj {number other : Int} (fits : 0 ≤ number ∧ number < 2 ^ 256)
    (fitsOther : 0 ≤ other ∧ other < 2 ^ 256)
    (same : word number.toNat = word other.toNat) : number = other := by
  have value := congrArg Bytes.toNat same
  rw [toNat_word (by omega), toNat_word (by omega)] at value
  omega

theorem Utf8.encode_injective : Function.Injective Utf8.encode :=
  Function.LeftInverse.injective decodeLossy_encode

namespace TypedData

@[simp] theorem length_typeHash (types : Types) (type : String) :
    (typeHash types type).length = 32 := Keccak.length_hash _

theorem hashes_of_envelope_eq {place words otherPlace otherWords : Bytes}
    (same : envelope place words = envelope otherPlace otherWords) :
    Keccak.hash place = Keccak.hash otherPlace ∧ Keccak.hash words = Keccak.hash otherWords := by
  simp only [envelope, List.cons_append, List.cons.injEq, true_and] at same
  exact List.append_inj same (by simp)

/-- The words of a domain tell the number of its chain. -/
theorem Domain.chainId_of_words_eq {name version contract otherName otherVersion : String}
    {otherContract : String} {chainId otherChainId : Int}
    (isNumber : 0 ≤ chainId ∧ chainId < 2 ^ 256)
    (isOtherNumber : 0 ≤ otherChainId ∧ otherChainId < 2 ^ 256)
    (same : words ⟨.str name, .str version, .int chainId, .str contract⟩ =
      words ⟨.str otherName, .str otherVersion, .int otherChainId, .str otherContract⟩) :
    chainId = otherChainId := by
  obtain ⟨front, -⟩ := List.append_inj same (by simp [Abi.length_word])
  obtain ⟨-, number⟩ := List.append_inj front (by simp)
  exact Abi.word_inj isNumber isOtherNumber number

end TypedData

/-! ## Words of the claims -/

/-- The words of a request tell the account, the hash of the key, and the deadline. -/
theorem KeyRequest.parts_of_words_eq {account deadline otherAccount otherDeadline : Int}
    {key otherKey : Bytes} (isAccount : 0 ≤ account ∧ account < 2 ^ 256)
    (isDeadline : 0 ≤ deadline ∧ deadline < 2 ^ 256)
    (isOtherAccount : 0 ≤ otherAccount ∧ otherAccount < 2 ^ 256)
    (isOtherDeadline : 0 ≤ otherDeadline ∧ otherDeadline < 2 ^ 256)
    (same : words account key deadline = words otherAccount otherKey otherDeadline) :
    account = otherAccount ∧ Keccak.hash key = Keccak.hash otherKey ∧
      deadline = otherDeadline := by
  obtain ⟨front, last⟩ := List.append_inj same (by simp [Abi.length_word])
  obtain ⟨front, keyHash⟩ := List.append_inj front (by simp [Abi.length_word])
  obtain ⟨-, first⟩ := List.append_inj front (by simp)
  exact ⟨Abi.word_inj isAccount isOtherAccount first, keyHash,
    Abi.word_inj isDeadline isOtherDeadline last⟩

/-- The words of a name proof tell the hash of the name, the time, and the address of the
owner. -/
theorem UsernameProof.parts_of_words_eq {timestamp otherTimestamp : Int} {name otherName : String}
    {owner otherOwner : Arg} (isTime : 0 ≤ timestamp ∧ timestamp < 2 ^ 256)
    (isOwner : (Abi.addressOf? owner).isSome = true)
    (isOtherTime : 0 ≤ otherTimestamp ∧ otherTimestamp < 2 ^ 256)
    (isOtherOwner : (Abi.addressOf? otherOwner).isSome = true)
    (same : words name timestamp owner = words otherName otherTimestamp otherOwner) :
    Keccak.hash (Utf8.encode name) = Keccak.hash (Utf8.encode otherName) ∧
      timestamp = otherTimestamp ∧ Abi.addressOf? owner = Abi.addressOf? otherOwner := by
  obtain ⟨address, isAddress⟩ := Option.isSome_iff_exists.mp isOwner
  obtain ⟨otherAddress, isOtherAddress⟩ := Option.isSome_iff_exists.mp isOtherOwner
  obtain ⟨front, last⟩ := List.append_inj same (by simp [Abi.length_word])
  obtain ⟨front, time⟩ := List.append_inj front (by simp)
  obtain ⟨-, nameHash⟩ := List.append_inj front (by simp)
  have addresses := List.append_cancel_left last
  rw [isAddress, isOtherAddress, Option.getD_some, Option.getD_some] at addresses
  exact ⟨nameHash, Abi.word_inj isTime isOtherTime time, by
    rw [isAddress, isOtherAddress, addresses]⟩

/-! ## Claims -/

/-- What a custody key signs: that a key may sign for an account until a deadline, and that a
name belongs to an owner from some time on. -/
inductive CustodyClaim where
  | keyRequest (account : Int) (key : Bytes) (deadline : Int)
  | nameProof (name : String) (timestamp : Int) (owner : Arg)

namespace CustodyClaim

def domain : CustodyClaim → TypedData.Domain
  | keyRequest .. => KeyRequest.domain
  | nameProof .. => UsernameProof.domain

def types : CustodyClaim → TypedData.Types
  | keyRequest .. => KeyRequest.types
  | nameProof .. => UsernameProof.types

/-- The name of the type that the claim is signed as. -/
def type : CustodyClaim → String
  | keyRequest .. => "SignedKeyRequest"
  | nameProof .. => "UserNameProof"

def value : CustodyClaim → Arg
  | keyRequest account key deadline => KeyRequest.claim (.int account) key (.int deadline)
  | nameProof name timestamp owner => UsernameProof.claim (.str name) (.int timestamp) owner

/-- The digest that is signed of a claim. -/
def digest (claim : CustodyClaim) : Except Fault Bytes :=
  TypedData.digest claim.domain claim.types claim.value

def sign (custody : CustodySigner) : CustodyClaim → Except Fault Bytes
  | keyRequest account key deadline => KeyRequest.sign custody (.int account) key (.int deadline)
  | nameProof name timestamp owner =>
    UsernameProof.sign custody (.str name) (.int timestamp) owner

/-- The numbers of the claim fit a word, and its owner is an address. -/
def Fits : CustodyClaim → Prop
  | keyRequest account _ deadline =>
    (0 ≤ account ∧ account < 2 ^ 256) ∧ (0 ≤ deadline ∧ deadline < 2 ^ 256)
  | nameProof _ timestamp owner =>
    (0 ≤ timestamp ∧ timestamp < 2 ^ 256) ∧ (Abi.addressOf? owner).isSome = true

/-- Claims of one kind whose parts are the same; the owners may be spelled in two ways. -/
def Same : CustodyClaim → CustodyClaim → Prop
  | keyRequest account key deadline, keyRequest otherAccount otherKey otherDeadline =>
    account = otherAccount ∧ key = otherKey ∧ deadline = otherDeadline
  | nameProof name timestamp owner, nameProof otherName otherTimestamp otherOwner =>
    name = otherName ∧ timestamp = otherTimestamp ∧
      Abi.addressOf? owner = Abi.addressOf? otherOwner
  | _, _ => False

/-! ### What is hashed of a claim -/

/-- The bytes of the member of no fixed length: the key, or the name. -/
def member : CustodyClaim → Bytes
  | keyRequest _ key _ => key
  | nameProof name _ _ => Utf8.encode name

def words : CustodyClaim → Bytes
  | keyRequest account key deadline => KeyRequest.words account key deadline
  | nameProof name timestamp owner => UsernameProof.words name timestamp owner

def envelope (claim : CustodyClaim) : Bytes :=
  TypedData.envelope claim.domain.words claim.words

variable {claim other : CustodyClaim}

theorem digest_eq (fits : claim.Fits) : claim.digest = .ok (Keccak.hash claim.envelope) := by
  cases claim with
  | keyRequest account key deadline => exact KeyRequest.digest_claim key fits.1 fits.2
  | nameProof name timestamp owner => exact UsernameProof.digest_claim name fits.1 fits.2

/-- It is the digest that a custody key signs. -/
theorem sign_eq (fits : claim.Fits) (custody : CustodySigner) :
    claim.sign custody = .ok (CustodySigner.signatureBytes
      (Secp256k1.sign custody.secret (Keccak.hash claim.envelope))) := by
  have signed : custody.signTypedData claim.domain claim.types claim.value = _ :=
    TypedData.sign_of_digest (digest_eq fits)
  cases claim with
  | keyRequest account key deadline => exact signed
  | nameProof name timestamp owner => exact signed

theorem envelope_of_same (same : claim.Same other) : claim.envelope = other.envelope := by
  match claim, other, same with
  | keyRequest .., keyRequest .., ⟨rfl, rfl, rfl⟩ => rfl
  | nameProof .., nameProof .., ⟨rfl, rfl, address⟩ =>
    simp only [envelope, domain, words, UsernameProof.words, address]

/-- The domains of claims of different types have different words. -/
theorem domain_words_ne (differ : claim.type ≠ other.type) :
    claim.domain.words ≠ other.domain.words := by
  intro same
  match claim, other with
  | keyRequest .., keyRequest .. => exact differ rfl
  | nameProof .., nameProof .. => exact differ rfl
  | keyRequest .., nameProof .. | nameProof .., keyRequest .. =>
    have chains := TypedData.Domain.chainId_of_words_eq (by decide) (by decide) same
    exact absurd chains (by decide)

/-- Claims of one type with the same words are the same, unless their members collide. -/
theorem same_or_collide_of_words_eq (fits : claim.Fits) (fitsOther : other.Fits)
    (type : claim.type = other.type) (words : claim.words = other.words) :
    claim.Same other ∨ Keccak.Collide claim.member other.member := by
  match claim, other with
  | keyRequest .., keyRequest .. =>
    obtain ⟨account, keyHash, deadline⟩ :=
      KeyRequest.parts_of_words_eq fits.1 fits.2 fitsOther.1 fitsOther.2 words
    exact (Keccak.eq_or_collide keyHash).imp_left fun key => ⟨account, key, deadline⟩
  | nameProof .., nameProof .. =>
    obtain ⟨nameHash, time, owner⟩ :=
      UsernameProof.parts_of_words_eq fits.1 fits.2 fitsOther.1 fitsOther.2 words
    exact (Keccak.eq_or_collide nameHash).imp_left fun name =>
      ⟨Utf8.encode_injective name, time, owner⟩
  | keyRequest .., nameProof .. => exact absurd type (by simp [CustodyClaim.type])
  | nameProof .., keyRequest .. => exact absurd type (by simp [CustodyClaim.type])

/-- Claims with one digest have the same envelope, unless the envelopes collide. -/
theorem envelope_eq_or_collide (fits : claim.Fits) (fitsOther : other.Fits)
    (digests : claim.digest = other.digest) :
    claim.envelope = other.envelope ∨ Keccak.Collide claim.envelope other.envelope := by
  rw [digest_eq fits, digest_eq fitsOther] at digests
  exact Keccak.eq_or_collide (Except.ok.inj digests)

/-- The digest that a custody key signs binds one claim. Claims of one type that have one
digest are the same, unless Keccak-256 collides on their envelopes, on their words, or on
their members of no fixed length. Claims of different types have different digests, unless it
collides on their envelopes or on the words of their domains. The same claim has the same
digest, in whatever way its owner is spelled. -/
theorem digest_binds (fits : claim.Fits) (fitsOther : other.Fits) :
    (claim.digest = .ok (Keccak.hash claim.envelope) ∧
      ∀ custody : CustodySigner, claim.sign custody = .ok (CustodySigner.signatureBytes
        (Secp256k1.sign custody.secret (Keccak.hash claim.envelope)))) ∧
    (claim.Same other → claim.digest = other.digest) ∧
    (claim.type = other.type → claim.digest = other.digest →
      claim.Same other ∨ Keccak.Collide claim.envelope other.envelope ∨
        Keccak.Collide claim.words other.words ∨ Keccak.Collide claim.member other.member) ∧
    (claim.type ≠ other.type → claim.digest = other.digest →
      Keccak.Collide claim.envelope other.envelope ∨
        Keccak.Collide claim.domain.words other.domain.words) := by
  refine ⟨⟨digest_eq fits, sign_eq fits⟩, fun same => ?_, fun type digests => ?_,
    fun differ digests => ?_⟩
  · rw [digest_eq fits, digest_eq fitsOther, envelope_of_same same]
  · obtain envelope | collide := envelope_eq_or_collide fits fitsOther digests
    · obtain ⟨-, wordsHash⟩ := TypedData.hashes_of_envelope_eq envelope
      obtain words | collide := Keccak.eq_or_collide wordsHash
      · exact (same_or_collide_of_words_eq fits fitsOther type words).imp_right
          fun collide => .inr (.inr collide)
      · exact .inr (.inr (.inl collide))
    · exact .inr (.inl collide)
  · obtain envelope | collide := envelope_eq_or_collide fits fitsOther digests
    · obtain ⟨placeHash, -⟩ := TypedData.hashes_of_envelope_eq envelope
      exact .inr ⟨domain_words_ne differ, placeHash⟩
    · exact .inl collide

/-! ### Sample claims -/

def sampleRequest : CustodyClaim := keyRequest 42 [1, 2, 3] 1700000000

def laterRequest : CustodyClaim := keyRequest 42 [1, 2, 3] 1700000001

def sampleProof : CustodyClaim :=
  nameProof "fid-42" 1700000000 (.str "0x7e5f4552091a69125d5dfcb7b8c2659029395bdf")

/-- The sample proof with its owner in capitals and without a mark. -/
def respelledProof : CustodyClaim :=
  nameProof "fid-42" 1700000000 (.str "7E5F4552091A69125D5DFCB7B8C2659029395BDF")

theorem sample_claims_bound :
    sampleRequest.Fits ∧ laterRequest.Fits ∧ sampleProof.Fits ∧ respelledProof.Fits ∧
    sampleProof.digest = respelledProof.digest ∧
    (sampleRequest.digest = laterRequest.digest →
      Keccak.Collide sampleRequest.envelope laterRequest.envelope ∨
        Keccak.Collide sampleRequest.words laterRequest.words) ∧
    (sampleRequest.digest = sampleProof.digest →
      Keccak.Collide sampleRequest.envelope sampleProof.envelope ∨
        Keccak.Collide sampleRequest.domain.words sampleProof.domain.words) := by
  have request : sampleRequest.Fits := ⟨by decide, by decide⟩
  have later : laterRequest.Fits := ⟨by decide, by decide⟩
  have proof : sampleProof.Fits := ⟨by decide, by decide +kernel⟩
  have respelled : respelledProof.Fits := ⟨by decide, by decide +kernel⟩
  have owners : sampleProof.Same respelledProof := ⟨rfl, rfl, by decide +kernel⟩
  obtain ⟨-, digests, -, -⟩ := digest_binds proof respelled
  obtain ⟨-, -, requests, -⟩ := digest_binds request later
  obtain ⟨-, -, -, kinds⟩ := digest_binds request proof
  refine ⟨request, later, proof, respelled, digests owners, fun same => ?_, kinds (by decide)⟩
  obtain same | envelope | words | ⟨differ, -⟩ := requests rfl same
  · exact absurd same.2.2 (by decide)
  · exact .inl envelope
  · exact .inr words
  · exact absurd rfl differ

end CustodyClaim

end Provisioning
