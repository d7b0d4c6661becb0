import Provisioning.Proofs.Crypto.Signatures
import Provisioning.Proofs.Message.Stability

/-!
# Messages on the wire

A message with typed data, sent as a wire document and read again, is the message but
for a parent that does not count as given (`Message.read_toWire`). What is signed is
not touched by that: a signed message and the one read from its wire document have the
same encoded data and the same wire document, and verify alike
(`Message.sign_survives_wire`).
-/

namespace Provisioning

namespace Message

/-- A message as a reader gets it. -/
def recovered (message : Message) : Message :=
  { message with data := message.data.recovered, received := some message.encodedData }

/-- A message whose encoded data are those of its typed data. -/
structure Faithful (message : Message) : Prop where
  data : message.data.Typed
  encoded : message.encodedData = message.data.encode
  hashScheme : HashScheme.ofCode? message.hashScheme.code = some message.hashScheme
  signatureScheme :
    SignatureScheme.ofCode? message.signatureScheme.code = some message.signatureScheme

variable {message : Message}

theorem readData_encode {data : MessageData} (typed : data.Typed) :
    readData data.encode = .ok data.toDocument.sortKeys := by
  rw [readData, MessageData.encode, Json.readBytes_canonical typed.regular]

theorem arrived_recovered (faithful : message.Faithful) :
    message.recovered.Arrived message.encodedData where
  received := rfl
  data := by
    rw [faithful.encoded, readData_encode faithful.data, Except.bind,
      MessageData.ofDocument_sortKeys faithful.data]
    rfl
  hashScheme := faithful.hashScheme
  signatureScheme := faithful.signatureScheme

theorem toWire_recovered (message : Message) : message.recovered.toWire = message.toWire := by
  have data := MessageData.toDocument_recovered message.data
  simp only [toWire, toDocument, recovered, data, encodedData, Option.getD_some]

/-- A wire document is read as its message, with the encoding that it arrived with. -/
theorem read_toWire (faithful : message.Faithful) :
    (readData message.toWire).bind ofDocument = .ok message.recovered := by
  rw [← toWire_recovered]
  exact (arrived_recovered faithful).read_toWire

/-- Reading a faithful message changes nothing about its verification. -/
theorem verify_recovered (faithful : message.Faithful)
    (received : message.received.isSome = true) : message.recovered.verify = message.verify := by
  obtain ⟨bytes, isBytes⟩ := Option.isSome_iff_exists.mp received
  have encoded := faithful.encoded
  rw [encodedData, isBytes, Option.getD_some] at encoded
  simp [verify, recovered, MessageData.encode_recovered, encodedData, isBytes, encoded]

/-! ## Signed messages -/

theorem sign_faithful {data : MessageData} (typed : data.Typed) (signer : DelegatedSigner) :
    (sign data signer).Faithful :=
  ⟨typed, rfl, rfl, rfl⟩

/-- A signed message verifies if the signature of its hash does. -/
theorem verify_sign (data : MessageData) (signer : DelegatedSigner) :
    (sign data signer).verify =
      Ed25519.verify signer.publicKey (contentHash data.encode)
        (signer.sign (contentHash data.encode)) := by
  simp [verify, sign]

theorem verify_sign_of_accepts {data : MessageData} {signer : DelegatedSigner}
    (accepts : Ed25519.Accepts signer.seed (contentHash data.encode)) :
    (sign data signer).verify = true := by
  rw [verify_sign, signer.publicKey_eq]
  exact accepts

end Message

/-! ## Built data -/

namespace MessageData

variable {body : Body} {account : Int} {network : Network}

theorem build_eq_ok (positive : 0 < account)
    (known : Network.ofCode? network.code = some network) (timestamp : Int)
    (now : Except Fault Int) :
    build body (.int account) (.int network.code) (.int timestamp) now =
      .ok ⟨body.messageType, .int account, .int timestamp, network, body⟩ := by
  simp [build, notPositive, Int.not_le.mpr positive, Json.member_code known, bind, Except.bind,
    pure, Except.pure]

theorem typed_of_body (typed : body.Typed)
    (known : Network.ofCode? network.code = some network) (account timestamp : Int) :
    Typed ⟨body.messageType, .int account, .int timestamp, network, body⟩ :=
  ⟨by cases body <;> rfl, ⟨account, rfl⟩, ⟨timestamp, rfl⟩, known, typed⟩

end MessageData

namespace Message

/-- A body made under the rules, put under an account and signed, survives the wire. -/
theorem sign_survives_wire {body : Body} (made : body.Made) {account : Int}
    (positive : 0 < account) {network : Network}
    (known : Network.ofCode? network.code = some network) (timestamp : Int)
    (now : Except Fault Int) (signer : DelegatedSigner) :
    ∃ data received,
      MessageData.build body (.int account) (.int network.code) (.int timestamp) now =
        .ok data ∧
      (readData (sign data signer).toWire).bind ofDocument = .ok received ∧
      received.encodedData = data.encode ∧ received.data.encode = data.encode ∧
      received.toWire = (sign data signer).toWire ∧
      (Ed25519.Accepts signer.seed (contentHash data.encode) →
        (sign data signer).verify = true ∧ received.verify = true) := by
  have typed := MessageData.typed_of_body made.typed known account timestamp
  have faithful := sign_faithful typed signer
  refine ⟨_, _, MessageData.build_eq_ok positive known timestamp now, read_toWire faithful,
    rfl, MessageData.encode_recovered _, toWire_recovered _, ?_⟩
  intro accepts
  have verifies := verify_sign_of_accepts accepts
  exact ⟨verifies, (verify_recovered faithful rfl).trans verifies⟩

/-! ## A post on the wire -/

/-- A post with an escape, a character beyond sixteen bits, and an empty parent. -/
def samplePost : Body :=
  .post (.str "\"😀") [.str "u"] [.int 7] [.int 0] (.str "")

def sampleData : MessageData :=
  ⟨.castAdd, .int 1, .int 5, .mainnet, samplePost⟩

/-- The canonical text of the data. -/
def sampleText : String :=
  "\x7b\"castAddBody\":\x7b\"embeds\":[\x7b\"url\":\"u\"\x7d],\"mentions\":[7]," ++
    "\"mentionsPositions\":[0],\"text\":\"\\\"😀\"\x7d,\"fid\":1,\"network\":1," ++
    "\"timestamp\":5,\"type\":1\x7d"

def sampleSigner : DelegatedSigner := .ofSeed (List.replicate 32 1) .active

def sampleKey : Bytes :=
  [138, 136, 227, 221, 116, 9, 241, 149, 253, 82, 219, 45, 60, 186, 93, 114,
    202, 103, 9, 191, 29, 148, 18, 27, 243, 116, 136, 1, 180, 15, 111, 92]

def sampleHash : Bytes :=
  [179, 117, 76, 53, 31, 5, 41, 11, 10, 25, 93, 164, 108, 103, 154, 103, 169, 94, 23, 26]

def sampleSignature : Bytes :=
  [173, 120, 223, 200, 164, 112, 94, 228, 225, 248, 194, 144, 77, 7, 54, 167,
    63, 113, 208, 181, 212, 188, 161, 178, 27, 232, 75, 214, 2, 224, 190, 111,
    86, 64, 130, 70, 36, 125, 185, 162, 226, 27, 148, 92, 194, 88, 192, 88,
    63, 44, 213, 107, 206, 168, 176, 11, 160, 183, 108, 173, 169, 3, 114, 5]

theorem sortKeys_sampleData : sampleData.toDocument.sortKeys =
    .obj [("castAddBody", .obj [("embeds", .arr [.obj [("url", .str "u")]]),
        ("mentions", .arr [.int 7]), ("mentionsPositions", .arr [.int 0]),
        ("text", .str "\"😀")]), ("fid", .int 1), ("network", .int 1), ("timestamp", .int 5),
      ("type", .int 1)] := by
  simp [sampleData, samplePost, MessageData.toDocument, Body.toDocument, Body.key,
    Json.truthy, Json.sortKeys, Json.sortFields, Json.sortItems, List.mergeSort,
    List.MergeSort.Internal.splitInTwo, MessageType.code, Network.code]

theorem encode_sampleData : sampleData.encode = Utf8.encode sampleText := by
  rw [MessageData.encode, Json.canonical, Json.canonicalChars, sortKeys_sampleData]
  decide +kernel

-- The kernel evaluates each step apart, on the bytes that the one before it came to.
theorem contentHash_sampleText : contentHash (Utf8.encode sampleText) = sampleHash := by
  decide +kernel

theorem publicKey_sampleSigner : Ed25519.publicKey (List.replicate 32 1) = sampleKey := by
  decide +kernel

theorem sign_sampleHash : Ed25519.sign (List.replicate 32 1) sampleHash = sampleSignature := by
  decide +kernel

theorem verify_sampleSignature : Ed25519.verify sampleKey sampleHash sampleSignature = true := by
  decide +kernel

theorem accepts_sampleHash : Ed25519.Accepts (List.replicate 32 1) sampleHash := by
  rw [Ed25519.Accepts, publicKey_sampleSigner, sign_sampleHash, verify_sampleSignature]

theorem samplePost_survives_wire :
    samplePost.Made ∧ (0 : Int) < 1 ∧ Network.ofCode? Network.mainnet.code = some .mainnet ∧
    ∃ data received,
      MessageData.build samplePost (.int 1) (.int Network.mainnet.code) (.int 5) (.ok 0) =
        .ok data ∧
      (readData (sign data sampleSigner).toWire).bind ofDocument = .ok received ∧
      received.encodedData = data.encode ∧ received.toWire = (sign data sampleSigner).toWire ∧
      (sign data sampleSigner).verify = true ∧ received.verify = true := by
  have made : samplePost.Made :=
    .post "\"😀" ["u"] [7] [0] (some "") rfl
  have known : Network.ofCode? Network.mainnet.code = some .mainnet := rfl
  obtain ⟨data, received, built, read, encoded, -, wire, verifies⟩ :=
    sign_survives_wire made (show (0 : Int) < 1 by decide) known 5 (.ok 0) sampleSigner
  have isSample : data = sampleData :=
    Except.ok.inj (built.symm.trans (MessageData.build_eq_ok (by decide) known 5 (.ok 0)))
  have accepts : Ed25519.Accepts sampleSigner.seed (contentHash data.encode) := by
    rw [isSample, encode_sampleData, contentHash_sampleText]
    exact accepts_sampleHash
  exact ⟨made, by decide, known, data, received, built, read, encoded, wire, verifies accepts⟩

end Message

end Provisioning
