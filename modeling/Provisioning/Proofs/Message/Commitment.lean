import Provisioning.Proofs.Message.Canonical

/-!
# The canonical text commits to the data

Typed data can be read from their canonical bytes, so two typed data with the same bytes
have the same document (`MessageData.toDocument_of_encode_eq`), whatever quotes, escapes
or markup their texts hold. A signature is of the hash of the bytes: other data put into a
signed message are found out by the bytes that it keeps, and without them only a
collision of the hash lets them pass (`Message.replaced_data_detected`).
-/

namespace Provisioning

namespace MessageData

variable {data other : MessageData}

/-- The data that are read from the canonical bytes of typed data. -/
theorem recovered_of_encode (typed : data.Typed) :
    (Message.readData data.encode).bind ofDocument = .ok data.recovered := by
  rw [Message.readData_encode typed, Except.bind, ofDocument_sortKeys typed]

/-- The canonical bytes of typed data tell their document. -/
theorem toDocument_of_encode_eq (typed : data.Typed) (typedOther : other.Typed)
    (same : other.encode = data.encode) : other.toDocument = data.toDocument := by
  have isData := recovered_of_encode typed
  have isOther := recovered_of_encode typedOther
  rw [same] at isOther
  have recovered : other.recovered = data.recovered := Except.ok.inj (isOther.symm.trans isData)
  rw [← toDocument_recovered other, recovered, toDocument_recovered]

end MessageData

namespace Message

variable {data other : MessageData}

/-- Data that are not those signed do not verify with the bytes that were signed. With
other bytes or none they verify exactly if the bytes are theirs, the hash of the two
collides, and the signature is one that the signer's key accepts. -/
theorem replaced_data_detected (typed : data.Typed) (typedOther : other.Typed)
    (differ : other.toDocument ≠ data.toDocument) (signer : DelegatedSigner) :
    { sign data signer with data := other }.verify = false ∧
    ∀ received : Option Bytes,
      { sign data signer with data := other, received := received }.verify = true ↔
        (∀ bytes, received = some bytes → bytes = other.encode) ∧
        (other.encode ≠ data.encode ∧ contentHash other.encode = contentHash data.encode) ∧
        (sign data signer).verify = true := by
  have apart : other.encode ≠ data.encode := fun same =>
    differ (MessageData.toDocument_of_encode_eq typed typedOther same)
  constructor
  · refine Bool.eq_false_iff.mpr fun verified => ?_
    obtain ⟨canonical, -, -⟩ := (verify_iff _).mp verified
    exact apart (canonical data.encode rfl).symm
  · intro received
    rw [verify_iff, verify_sign]
    constructor
    · rintro ⟨canonical, hash, accepted⟩
      exact ⟨canonical, ⟨apart, hash⟩, accepted⟩
    · rintro ⟨canonical, ⟨-, hash⟩, accepted⟩
      exact ⟨canonical, hash, accepted⟩

/-- The sample with a text that looks like the members after it. -/
def forgedData : MessageData :=
  { sampleData with
    body := .post (.str "\"😀\",\"x\":\"") [.str "u"] [.int 7] [.int 0] .null }

theorem forgedData_detected :
    sampleData.Typed ∧ forgedData.Typed ∧ forgedData.toDocument ≠ sampleData.toDocument ∧
    { sign sampleData sampleSigner with data := forgedData }.verify = false ∧
    ({ sign sampleData sampleSigner with data := forgedData, received := none }.verify = true ↔
      forgedData.encode ≠ sampleData.encode ∧
        contentHash forgedData.encode = contentHash sampleData.encode) := by
  have typed : forgedData.Typed :=
    MessageData.typed_of_body (.post "\"😀\",\"x\":\"" ["u"] [7] [0] none) rfl 1 5
  have differ : forgedData.toDocument ≠ sampleData.toDocument := by
    simp [forgedData, sampleData, samplePost, MessageData.toDocument, Body.toDocument]
  obtain ⟨kept, dropped⟩ :=
    replaced_data_detected typed_sampleData typed differ sampleSigner
  refine ⟨typed_sampleData, typed, differ, kept, ?_⟩
  rw [dropped none]
  simp [verify_sampleMessage]

end Message

end Provisioning
