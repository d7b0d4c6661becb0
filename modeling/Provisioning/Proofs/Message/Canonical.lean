import Provisioning.Proofs.Except
import Provisioning.Proofs.Json.Reading
import Provisioning.Proofs.Json.Sameness
import Provisioning.Proofs.Message.Wire

/-!
# Verified messages are canonical

Reading message data is lenient: unknown members are passed over, numbers are coerced,
missing lists are empty, and of two bodies one wins. Verification is not: the encoding
that a message arrived with has to be the canonical one of the data that were read from
it. Since the canonical text of a regular document reads back as that document with its
members sorted, the encoding of a verified message holds exactly the data
(`Message.verified_exact`).
-/

namespace Provisioning

open Json (find? keysOf)

/-! ## Parts of a regular document -/

namespace Json

variable {document value default : Json} {key : String}

theorem find?_mem {fields : List (String × Json)} (found : find? key fields = some value) :
    (key, value) ∈ fields := by
  induction fields with
  | nil => cases found
  | cons field rest ih =>
    rw [find?] at found
    split at found
    · next same =>
      cases found
      exact same ▸ List.mem_cons_self
    · exact List.mem_cons_of_mem _ (ih found)

/-- A member that was found is that of an object. -/
theorem get?_of_field (found : document.field key = .ok value) : document.get? key = some value := by
  cases document with
  | obj fields =>
    rw [Json.field] at found
    split at found
    · next inside =>
      cases found
      exact inside
    · cases found
  | null | bool | int | float | str | arr => cases found

theorem Regular.field (regular : document.Regular) (found : document.field key = .ok value) :
    value.Regular := by
  cases document with
  | obj fields => exact regularFields_iff.mp regular.2 _ (find?_mem (get?_of_field found))
  | null | bool | int | float | str | arr => cases found

theorem Regular.fieldD (regular : document.Regular) (regularDefault : default.Regular)
    (found : document.fieldD key default = .ok value) : value.Regular := by
  cases document with
  | obj fields =>
    cases found
    cases inside : find? key fields with
    | none => exact regularDefault
    | some value => exact regularFields_iff.mp regular.2 _ (find?_mem inside)
  | null | bool | int | float | str | arr => cases found

theorem Regular.items (regular : document.Regular) {items : List Json}
    (found : document.items = .ok items) : RegularItems items := by
  cases document with
  | arr items =>
    cases found
    exact regular
  | str s =>
    cases found
    refine regularItems_iff.mpr fun item member => ?_
    obtain ⟨character, -, rfl⟩ := List.mem_map.mp member
    trivial
  | obj fields =>
    cases found
    refine regularItems_iff.mpr fun item member => ?_
    obtain ⟨field, -, rfl⟩ := List.mem_map.mp member
    trivial
  | null | bool | int | float => cases found

theorem regularItems_mapM_field {items values : List Json} (regular : RegularItems items)
    (found : items.mapM (Json.field key) = .ok values) : RegularItems values := by
  induction items generalizing values with
  | nil =>
    cases found
    trivial
  | cons item rest ih =>
    rw [List.mapM_cons] at found
    obtain ⟨first, isFirst, found⟩ := bind_ok_inv found
    obtain ⟨others, isOthers, found⟩ := bind_ok_inv found
    cases found
    exact ⟨regular.1.field isFirst, ih regular.2 isOthers⟩

end Json

/-! ## Data that were read from a regular document -/

namespace Body

variable {document : Json} {body : Body}

theorem regular_profileOfDocument (regular : document.Regular)
    (read : profileOfDocument document = .ok body) : body.toDocument.Regular := by
  obtain ⟨code, -, read⟩ := bind_ok_inv read
  obtain ⟨field, -, read⟩ := bind_ok_inv read
  obtain ⟨value, isValue, read⟩ := bind_ok_inv read
  cases read
  exact ⟨by simp [keysOf], trivial, regular.field isValue, trivial⟩

theorem regular_postOfDocument (regular : document.Regular)
    (read : postOfDocument document = .ok body) : body.toDocument.Regular := by
  obtain ⟨text, isText, read⟩ := bind_ok_inv read
  obtain ⟨embedList, isEmbedList, read⟩ := bind_ok_inv read
  obtain ⟨entries, areEntries, read⟩ := bind_ok_inv read
  obtain ⟨embeds, areEmbeds, read⟩ := bind_ok_inv read
  obtain ⟨mentionList, isMentionList, read⟩ := bind_ok_inv read
  obtain ⟨mentions, areMentions, read⟩ := bind_ok_inv read
  obtain ⟨positionList, isPositionList, read⟩ := bind_ok_inv read
  obtain ⟨positions, arePositions, read⟩ := bind_ok_inv read
  obtain ⟨parent, isParent, read⟩ := bind_ok_inv read
  cases read
  have empty : (Json.arr []).Regular := trivial
  have entriesRegular := (regular.fieldD empty isEmbedList).items areEntries
  exact regular_post (regular.field isText)
    (Json.regularItems_mapM_field entriesRegular areEmbeds)
    ((regular.fieldD empty isMentionList).items areMentions)
    ((regular.fieldD empty isPositionList).items arePositions)
    (regular.fieldD (show Json.null.Regular from trivial) isParent)

end Body

namespace MessageData

variable {document : Json} {data : MessageData}

theorem regular_bodyOfDocument {body : Body} (regular : document.Regular)
    (read : bodyOfDocument document = .ok (.ok body)) : body.toDocument.Regular := by
  obtain ⟨isProfile, -, read⟩ := bind_ok_inv read
  split at read
  · have found := Except.ok.inj read
    obtain ⟨inside, isInside, isBody⟩ := bind_ok_inv found
    exact Body.regular_profileOfDocument (regular.field isInside) isBody
  · obtain ⟨isPost, -, read⟩ := bind_ok_inv read
    split at read
    · have found := Except.ok.inj read
      obtain ⟨inside, isInside, isBody⟩ := bind_ok_inv found
      exact Body.regular_postOfDocument (regular.field isInside) isBody
    · cases read

theorem regular_ofDocument (regular : document.Regular) (read : ofDocument document = .ok data) :
    data.toDocument.Regular := by
  obtain ⟨body, isBody, read⟩ := bind_ok_inv read
  obtain ⟨code, -, read⟩ := bind_ok_inv read
  obtain ⟨type, -, read⟩ := bind_ok_inv read
  obtain ⟨number, -, read⟩ := bind_ok_inv read
  obtain ⟨account, -, read⟩ := bind_ok_inv read
  obtain ⟨moment, -, read⟩ := bind_ok_inv read
  obtain ⟨timestamp, -, read⟩ := bind_ok_inv read
  obtain ⟨networkCode, -, read⟩ := bind_ok_inv read
  obtain ⟨network, -, read⟩ := bind_ok_inv read
  obtain ⟨held, rfl, read⟩ := bind_ok_inv read
  cases read
  exact regular_of_body rfl rfl (regular_bodyOfDocument regular isBody)

/-- A document of message data holds one body. -/
theorem not_both_bodies (data : MessageData) :
    ¬(data.toDocument.sortKeys.mentions "userDataBody" = .ok true ∧
      data.toDocument.sortKeys.mentions "castAddBody" = .ok true) := by
  rintro ⟨profile, post⟩
  have distinct := nodup_toDocument data
  rw [toDocument, Json.mentions_sortKeys distinct] at profile post
  cases body : data.body <;> simp [body, find?, Body.key] at profile post

end MessageData

/-! ## Verified messages -/

namespace Message

variable {document inner : Json} {message : Message}

theorem ofDocument_inv (read : ofDocument document = .ok message) :
    ∃ bytes inside, (document.field "dataBytes").bind Json.base64 = .ok bytes ∧
      Json.readBytes bytes = .ok inside ∧ MessageData.ofDocument inside = .ok message.data ∧
      message.received = some bytes := by
  obtain ⟨bytes, areBytes, arrived⟩ := arrived_of_ofDocument read
  obtain ⟨inside, isInside, isData⟩ := bind_ok_inv arrived.data
  refine ⟨bytes, inside, areBytes, ?_, isData, arrived.received⟩
  unfold readData at isInside
  split at isInside
  · next found =>
    cases isInside
    exact found
  · cases isInside

/-- A message verifies exactly if the bytes that it arrived with are canonical, the hash is
theirs, and the signature of the hash is accepted. -/
theorem verify_iff (message : Message) :
    message.verify = true ↔
      (∀ bytes, message.received = some bytes → bytes = message.data.encode) ∧
      contentHash message.data.encode = message.hash ∧
      Ed25519.verify message.signer message.hash message.signature = true := by
  simp only [verify, Bool.and_eq_true, beq_iff_eq, Option.all_eq_true, and_assoc]

/-- What a verified message arrived with is the canonical text of its data and nothing
else: read as a document it is the data's, with the members sorted, at every depth; and
the hash is of these bytes. -/
theorem verified_exact (read : ofDocument document = .ok message)
    (verified : message.verify = true)
    (inside : ((document.field "dataBytes").bind Json.base64).bind readData = .ok inner)
    (integral : inner.Integral) :
    ∃ bytes, (document.field "dataBytes").bind Json.base64 = .ok bytes ∧
      bytes = message.data.toDocument.canonical ∧
      Json.readBytes bytes = .ok inner ∧ inner = message.data.toDocument.sortKeys ∧
      inner.same message.data.toDocument = true ∧
      ¬(inner.mentions "userDataBody" = .ok true ∧ inner.mentions "castAddBody" = .ok true) ∧
      message.hash = contentHash bytes := by
  obtain ⟨bytes, held, areBytes, isHeld, isData, received⟩ := ofDocument_inv read
  obtain ⟨canonical, hash, -⟩ := (verify_iff message).mp verified
  have isCanonical : bytes = message.data.toDocument.canonical := canonical bytes received
  have isInner : inner = held := by
    rw [areBytes] at inside
    simp only [Except.bind, readData, isHeld] at inside
    exact (Except.ok.inj inside).symm
  subst isInner
  have regular := MessageData.regular_ofDocument
    (Json.regular_of_readBytes isHeld integral) isData
  have sorted : inner = message.data.toDocument.sortKeys := by
    have readBack := Json.readBytes_canonical regular
    rw [← isCanonical, isHeld] at readBack
    exact Except.ok.inj readBack
  refine ⟨bytes, areBytes, isCanonical, isHeld, sorted, ?_, ?_, ?_⟩
  · rw [sorted]
    exact Json.same_sortKeys _ regular
  · rw [sorted]
    exact message.data.not_both_bodies
  · rw [← hash, isCanonical]
    rfl

/-- A wire document with the members that reading asks for, and another value where the
data stand. -/
def bareDocument (message : Message) : Json :=
  .obj [("data", .bool false),
    ("dataBytes", .str (Base64.encode message.encodedData)),
    ("hash", .str (Hex.marked message.hash)),
    ("signature", .str (Base64.encode message.signature)),
    ("signer", .str (Hex.marked message.signer))]

/-- Neither the data beside the encoded ones nor the schemes are missed. -/
theorem ofDocument_bareDocument (faithful : message.Faithful)
    (hashed : message.hashScheme = .blake3) (signed : message.signatureScheme = .ed25519) :
    ofDocument message.bareDocument = .ok message.recovered := by
  have data := readData_encode faithful.data
  rw [← faithful.encoded] at data
  have hashScheme : Json.member "HashScheme" HashScheme.ofCode? (.int 1) = .ok .blake3 := rfl
  have signatureScheme :
      Json.member "SignatureScheme" SignatureScheme.ofCode? (.int 1) = .ok .ed25519 := rfl
  simp [ofDocument, bareDocument, Json.field, Json.fieldD, find?, Json.base64_encode,
    Json.markedHex_marked, data, MessageData.ofDocument_sortKeys faithful.data, hashScheme,
    signatureScheme, hashed, signed, bind, Except.bind, pure, Except.pure, recovered]

theorem readData_bareDocument (faithful : message.Faithful) :
    ((message.bareDocument.field "dataBytes").bind Json.base64).bind readData =
      .ok message.data.toDocument.sortKeys := by
  have data := readData_encode faithful.data
  rw [← faithful.encoded] at data
  simp [bareDocument, Json.field, find?, Json.base64_encode, data, Except.bind]

theorem typed_sampleData : sampleData.Typed :=
  MessageData.typed_of_body (Body.Made.post "\"😀" ["u"] [7] [0] (some "") rfl).typed rfl 1 5

theorem verify_sampleMessage : (sign sampleData sampleSigner).verify = true := by
  have accepts : Ed25519.Accepts sampleSigner.seed (contentHash sampleData.encode) := by
    rw [encode_sampleData, contentHash_sampleText]
    exact accepts_sampleHash
  exact verify_sign_of_accepts accepts

/-- The sample without the members that reading passes over. -/
theorem bareDocument_sample_exact :
    ∃ message inner bytes,
      ofDocument (sign sampleData sampleSigner).bareDocument = .ok message ∧
      message.verify = true ∧ inner.Integral ∧
      bytes = message.data.toDocument.canonical ∧ Json.readBytes bytes = .ok inner ∧
      inner.same message.data.toDocument = true ∧ message.hash = contentHash bytes := by
  have faithful := sign_faithful typed_sampleData sampleSigner
  have read := ofDocument_bareDocument faithful rfl rfl
  have verified : (sign sampleData sampleSigner).recovered.verify = true :=
    (verify_recovered faithful rfl).trans verify_sampleMessage
  have integral : sampleData.toDocument.sortKeys.Integral := by
    rw [sortKeys_sampleData]
    simp [Json.Integral, Json.IntegralFields, Json.IntegralItems]
  obtain ⟨bytes, -, canonical, isInner, -, same, -, hash⟩ :=
    verified_exact read verified (readData_bareDocument faithful) integral
  exact ⟨_, _, bytes, read, verified, integral, canonical, isInner, same, hash⟩

end Message

end Provisioning
