import Provisioning.Proofs.Message.Commitment

/-!
# The wire form of a verified message

A wire document has seven members. Of a verified message the hash commits to the data, the
encoding has to be their canonical one, and there is one hash scheme; so hash, signature and
signer tell all of them, unless the hash collides, but for the signature scheme. Which scheme
a message declares is passed over when it is verified (`Message.verify_redeclared`): a
verified message has one wire form for each scheme (`Message.wire_form_eq_iff`).
-/

namespace Provisioning

/-! ## Members of the schemes -/

theorem HashScheme.eq_blake3 {scheme : HashScheme} (known : ofCode? scheme.code = some scheme) :
    scheme = .blake3 := by
  unfold ofCode? at known
  split at known
  · exact (Option.some.inj known).symm
  · cases known

theorem SignatureScheme.eq_of_code_eq {scheme other : SignatureScheme}
    (known : ofCode? scheme.code = some scheme) (knownOther : ofCode? other.code = some other)
    (same : scheme.code = other.code) : scheme = other := by
  rw [same, knownOther] at known
  exact (Option.some.inj known).symm

namespace Message

/-- A message whose data are typed and whose schemes are members of their enumerations. Its
bytes may be any, those that it arrived with too. -/
structure WellTyped (message : Message) : Prop where
  data : message.data.Typed
  hashScheme : HashScheme.ofCode? message.hashScheme.code = some message.hashScheme
  signatureScheme :
    SignatureScheme.ofCode? message.signatureScheme.code = some message.signatureScheme

theorem Faithful.wellTyped {message : Message} (faithful : message.Faithful) :
    message.WellTyped :=
  ⟨faithful.data, faithful.hashScheme, faithful.signatureScheme⟩

variable {message other : Message}

/-! ## What verification leaves open -/

/-- A verified message shows its data in their canonical encoding. -/
theorem encodedData_of_verify (verified : message.verify = true) :
    message.encodedData = message.data.encode := by
  obtain ⟨canonical, -, -⟩ := (verify_iff message).mp verified
  unfold encodedData
  cases received : message.received with
  | none => rfl
  | some bytes => exact canonical bytes received

/-- Whatever signature scheme is declared, the signature is held to be an Ed25519 one. -/
theorem verify_redeclared (message : Message) (scheme : SignatureScheme) :
    { message with signatureScheme := scheme }.verify = message.verify := rfl

/-- Verified messages with one hash encode their data alike or make the hash collide. -/
theorem contentHash_eq_of_verify (verified : message.verify = true)
    (verifiedOther : other.verify = true) (hash : message.hash = other.hash) :
    contentHash message.data.encode = contentHash other.data.encode := by
  obtain ⟨-, isHash, -⟩ := (verify_iff message).mp verified
  obtain ⟨-, isHashOther, -⟩ := (verify_iff other).mp verifiedOther
  rw [isHash, hash, isHashOther]

/-- The wire document shows the data's and the code of the signature scheme. -/
theorem shown_of_toDocument_eq (same : message.toDocument = other.toDocument) :
    message.data.toDocument = other.data.toDocument ∧
      message.signatureScheme.code = other.signatureScheme.code := by
  simp only [toDocument, Json.obj.injEq, List.cons.injEq, Prod.mk.injEq, Json.int.injEq, true_and]
    at same
  exact ⟨same.1, same.2.2.2.2.2.1⟩

section Shared

variable (typed : message.WellTyped) (typedOther : other.WellTyped)
  (verified : message.verify = true) (verifiedOther : other.verify = true)
  (hash : message.hash = other.hash) (signature : message.signature = other.signature)
  (signer : message.signer = other.signer)
include typed typedOther verified verifiedOther hash signature signer

/-- Once the schemes agree, one encoding of the data makes one wire document. -/
theorem toDocument_redeclared (encoded : message.data.encode = other.data.encode) :
    { message with signatureScheme := other.signatureScheme }.toDocument = other.toDocument := by
  have data := MessageData.toDocument_of_encode_eq typedOther.data typed.data encoded
  have bytes : message.encodedData = other.encodedData := by
    rw [encodedData_of_verify verified, encodedData_of_verify verifiedOther, encoded]
  have hashScheme : message.hashScheme = other.hashScheme := by
    rw [HashScheme.eq_blake3 typed.hashScheme, HashScheme.eq_blake3 typedOther.hashScheme]
  rw [toDocument, toDocument, ← data, ← bytes, ← hash, ← hashScheme, ← signature, ← signer]
  rfl

/-- Two verified messages with one hash, one signature and one signer have one wire document,
exactly if their data are encoded alike and they declare the same signature scheme; data that
are encoded otherwise make the hash collide. Nothing but that scheme is left open: with the
other's scheme the message has the other's wire document, and it verifies with any. -/
theorem wire_form_eq_iff :
    contentHash message.data.encode = contentHash other.data.encode ∧
    (message.toDocument = other.toDocument ↔
      message.data.encode = other.data.encode ∧
        message.signatureScheme = other.signatureScheme) ∧
    (message.data.encode = other.data.encode →
      { message with signatureScheme := other.signatureScheme }.toDocument =
        other.toDocument) ∧
    ∀ scheme : SignatureScheme, { message with signatureScheme := scheme }.verify = true := by
  have redeclared := toDocument_redeclared typed typedOther verified verifiedOther hash
    signature signer
  refine ⟨contentHash_eq_of_verify verified verifiedOther hash, ⟨fun same => ?_, ?_⟩,
    redeclared, fun scheme => (verify_redeclared message scheme).trans verified⟩
  · obtain ⟨data, code⟩ := shown_of_toDocument_eq same
    exact ⟨congrArg Json.canonical data, SignatureScheme.eq_of_code_eq typed.signatureScheme
      typedOther.signatureScheme code⟩
  · rintro ⟨encoded, scheme⟩
    rw [← redeclared encoded, ← scheme]

end Shared

/-! ## One signature, two wire forms -/

/-- The signed sample without the bytes that it arrived with, and without its empty parent. -/
def bareSample : Message :=
  { (sign sampleData sampleSigner).recovered with received := none }

theorem wellTyped_bareSample : bareSample.WellTyped where
  data := MessageData.typed_of_body (.post "\"😀" ["u"] [7] [0] none) rfl 1 5
  hashScheme := rfl
  signatureScheme := rfl

theorem verify_bareSample : bareSample.verify = true := by
  obtain ⟨-, hash, signature⟩ := (verify_iff _).mp verify_sampleMessage
  refine (verify_iff _).mpr ⟨nofun, ?_, signature⟩
  show contentHash sampleData.recovered.encode = contentHash sampleData.encode
  rw [MessageData.encode_recovered]

theorem bareSample_same_wire_form :
    bareSample.WellTyped ∧ (sign sampleData sampleSigner).WellTyped ∧
    bareSample.verify = true ∧ (sign sampleData sampleSigner).verify = true ∧
    bareSample.data ≠ sampleData ∧
    bareSample.toDocument = (sign sampleData sampleSigner).toDocument := by
  have typed := (sign_faithful typed_sampleData sampleSigner).wellTyped
  have differ : bareSample.data ≠ sampleData := by
    simp [bareSample, recovered, sign, MessageData.recovered, Body.recovered, sampleData,
      samplePost, Json.truthy]
  obtain ⟨-, same, -, -⟩ := wire_form_eq_iff wellTyped_bareSample typed verify_bareSample
    verify_sampleMessage rfl rfl rfl
  exact ⟨wellTyped_bareSample, typed, verify_bareSample, verify_sampleMessage, differ,
    same.mpr ⟨MessageData.encode_recovered sampleData, rfl⟩⟩

/-- The signed sample, said to be signed in the other scheme. -/
def redeclaredSample : Message :=
  { sign sampleData sampleSigner with signatureScheme := .eip712 }

/-- It verifies beside the sample, also when it is read from its wire document, and is another
document with the same encoding, hash, signature and signer. -/
theorem redeclaredSample_verifies :
    redeclaredSample.WellTyped ∧ (sign sampleData sampleSigner).WellTyped ∧
    redeclaredSample.verify = true ∧ (sign sampleData sampleSigner).verify = true ∧
    redeclaredSample.hash = (sign sampleData sampleSigner).hash ∧
    redeclaredSample.signature = (sign sampleData sampleSigner).signature ∧
    redeclaredSample.signer = (sign sampleData sampleSigner).signer ∧
    redeclaredSample.data.encode = (sign sampleData sampleSigner).data.encode ∧
    redeclaredSample.toDocument ≠ (sign sampleData sampleSigner).toDocument ∧
    ∃ received, (readData redeclaredSample.toWire).bind ofDocument = .ok received ∧
      received.verify = true ∧ received.signatureScheme = .eip712 := by
  have faithful : redeclaredSample.Faithful := ⟨typed_sampleData, rfl, rfl, rfl⟩
  have verified : redeclaredSample.verify = true :=
    (verify_redeclared _ .eip712).trans verify_sampleMessage
  have differ : redeclaredSample.toDocument ≠ (sign sampleData sampleSigner).toDocument :=
    fun same => absurd (shown_of_toDocument_eq same).2 (by decide)
  exact ⟨faithful.wellTyped, (sign_faithful typed_sampleData sampleSigner).wellTyped, verified,
    verify_sampleMessage, rfl, rfl, rfl, rfl, differ, _, read_toWire faithful,
    (verify_recovered faithful rfl).trans verified, rfl⟩

end Message

end Provisioning
