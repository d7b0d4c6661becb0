import Provisioning.Proofs.Message.Canonical

/-!
# Well-formed message data

Message data are *well-formed* if their type is that of their body and their account is a
positive number. Data that are built are so (`MessageData.wellFormed_of_build`). Data that are
read take the type and the account from the document as it says: they are well-formed exactly
if the document itself is consistent (`MessageData.ofDocument_wellFormed_iff`). Verification
does not help, as a signature is made of any bytes. Main statement:
`MessageData.wellFormed_iff_consistent`.
-/

namespace Provisioning

open Json (find?)

theorem MessageType.code_ofCode? {code : Int} {type : MessageType}
    (known : ofCode? code = some type) : type.code = code := by
  unfold ofCode? at known
  split at known <;> cases known <;> rfl

namespace Body

variable {document : Json} {body : Body}

theorem ofCode?_messageType (body : Body) :
    MessageType.ofCode? body.messageType.code = some body.messageType := by
  cases body <;> rfl

theorem messageType_of_profile (read : profileOfDocument document = .ok body) :
    body.messageType = .userDataAdd := by
  obtain ⟨code, -, read⟩ := bind_ok_inv read
  obtain ⟨field, -, read⟩ := bind_ok_inv read
  obtain ⟨value, -, read⟩ := bind_ok_inv read
  cases read
  rfl

theorem messageType_of_post (read : postOfDocument document = .ok body) :
    body.messageType = .castAdd := by
  obtain ⟨text, -, read⟩ := bind_ok_inv read
  obtain ⟨embedList, -, read⟩ := bind_ok_inv read
  obtain ⟨entries, -, read⟩ := bind_ok_inv read
  obtain ⟨embeds, -, read⟩ := bind_ok_inv read
  obtain ⟨mentionList, -, read⟩ := bind_ok_inv read
  obtain ⟨mentions, -, read⟩ := bind_ok_inv read
  obtain ⟨positionList, -, read⟩ := bind_ok_inv read
  obtain ⟨positions, -, read⟩ := bind_ok_inv read
  obtain ⟨parent, -, read⟩ := bind_ok_inv read
  cases read
  rfl

end Body

/-- Objects are asked for a key by looking for its member. -/
theorem Json.mentions_of_get? {key other : String} {document value : Json}
    (isObject : document.get? key = some value) :
    document.mentions other = .ok (document.get? other).isSome := by
  cases document with
  | obj fields => rfl
  | null | bool | int | float | str | arr => cases isObject

namespace MessageData

/-- The type is that of the body, and the account is a positive number. -/
structure WellFormed (data : MessageData) : Prop where
  type : data.type = data.body.messageType
  account : ∃ number, data.account = .int number ∧ 0 < number

/-- The type of the body that a document of message data holds; a profile field comes first. -/
def heldType (document : Json) : MessageType :=
  if (document.get? "userDataBody").isSome then .userDataAdd else .castAdd

/-- The type that a document tells is that of the body it holds, and the account that it tells
is a positive number, however it is written. -/
structure Consistent (document : Json) : Prop where
  type : ∃ value, document.get? "type" = some value ∧
    value.integer? = some (heldType document).code
  account : ∃ value number, document.get? "fid" = some value ∧ value.toInt = .ok number ∧
    0 < number

variable {document : Json} {data : MessageData} {body : Body}

/-- The type of built data is derived from the body, and the account is checked. -/
theorem wellFormed_of_build {account : Int} {network timestamp : Json} {now : Except Fault Int}
    (built : build body (.int account) network timestamp now = .ok data) : data.WellFormed := by
  unfold build at built
  obtain ⟨refused, isRefused, built⟩ := bind_ok_inv built
  cases isRefused
  obtain ⟨positive, built⟩ := guard_ok_inv built
  have positive : 0 < account := by simpa using positive
  dsimp only at built
  -- The time is given or asked for; what is made of it is the same.
  split at built
  all_goals
    obtain ⟨time, -, built⟩ := bind_ok_inv built
    obtain ⟨network, -, built⟩ := bind_ok_inv built
    cases built
    exact ⟨rfl, account, rfl, positive⟩

/-- The body that is read is of the type that the document holds. -/
theorem heldType_of_body {value : Json} (isObject : document.get? "type" = some value)
    (read : bodyOfDocument document = .ok (.ok body)) : body.messageType = heldType document := by
  rw [bodyOfDocument, Json.mentions_of_get? isObject] at read
  obtain ⟨isProfile, isMember, read⟩ := bind_ok_inv read
  cases isMember
  rw [heldType]
  split at read
  · next profile =>
    rw [if_pos profile]
    obtain ⟨inside, -, isBody⟩ := bind_ok_inv (Except.ok.inj read)
    exact Body.messageType_of_profile isBody
  · next other =>
    rw [if_neg other]
    obtain ⟨isPost, -, read⟩ := bind_ok_inv read
    split at read
    · obtain ⟨inside, -, isBody⟩ := bind_ok_inv (Except.ok.inj read)
      exact Body.messageType_of_post isBody
    · cases read

/-- What reading takes from a document: the type and the account as they are told, and the
body that is held. -/
structure Told (document : Json) (data : MessageData) : Prop where
  type : ∃ value code, document.get? "type" = some value ∧ value.integer? = some code ∧
    MessageType.ofCode? code = some data.type
  account : ∃ value number, document.get? "fid" = some value ∧ value.toInt = .ok number ∧
    data.account = .int number
  body : data.body.messageType = heldType document

theorem told_of_ofDocument (read : ofDocument document = .ok data) : Told document data := by
  obtain ⟨body, isBody, read⟩ := bind_ok_inv read
  obtain ⟨typeValue, isTypeValue, read⟩ := bind_ok_inv read
  obtain ⟨type, isType, read⟩ := bind_ok_inv read
  obtain ⟨fidValue, isFidValue, read⟩ := bind_ok_inv read
  obtain ⟨account, isAccount, read⟩ := bind_ok_inv read
  obtain ⟨moment, -, read⟩ := bind_ok_inv read
  obtain ⟨timestamp, -, read⟩ := bind_ok_inv read
  obtain ⟨networkValue, -, read⟩ := bind_ok_inv read
  obtain ⟨network, -, read⟩ := bind_ok_inv read
  obtain ⟨held, rfl, read⟩ := bind_ok_inv read
  cases read
  have isObject := Json.get?_of_field isTypeValue
  obtain ⟨code, worth, known⟩ := Json.member_inv isType
  exact ⟨⟨typeValue, code, isObject, worth, known⟩,
    ⟨fidValue, account, Json.get?_of_field isFidValue, isAccount, rfl⟩,
    heldType_of_body isObject isBody⟩

/-- Nothing makes data that were read well-formed but the document. -/
theorem ofDocument_wellFormed_iff (read : ofDocument document = .ok data) :
    data.WellFormed ↔ Consistent document := by
  obtain ⟨⟨typeValue, code, isTypeValue, worth, known⟩,
    ⟨fidValue, number, isFidValue, isNumber, isAccount⟩, held⟩ := told_of_ofDocument read
  constructor
  · rintro ⟨isType, account, isPositive, positive⟩
    obtain rfl := Json.int.inj (isAccount.symm.trans isPositive)
    refine ⟨⟨typeValue, isTypeValue, ?_⟩, fidValue, number, isFidValue, isNumber, positive⟩
    rw [worth, ← held, ← isType, MessageType.code_ofCode? known]
  · rintro ⟨⟨value, isValue, told⟩, value', account, isValue', isAccount', positive⟩
    obtain rfl := Option.some.inj (isTypeValue.symm.trans isValue)
    obtain rfl := Option.some.inj (isFidValue.symm.trans isValue')
    obtain rfl := Except.ok.inj (isNumber.symm.trans isAccount')
    obtain rfl := Option.some.inj (worth.symm.trans told)
    refine ⟨?_, number, isAccount, positive⟩
    rw [← held, Body.ofCode?_messageType] at known
    exact (Option.some.inj known).symm

/-- The data of a message that is received are read from the document inside its bytes. -/
theorem exists_inner {message : Message} (received : Message.ofDocument document = .ok message) :
    ∃ inner, ((document.field "dataBytes").bind Json.base64).bind Message.readData = .ok inner ∧
      ofDocument inner = .ok message.data := by
  obtain ⟨bytes, areBytes, arrived⟩ := Message.arrived_of_ofDocument received
  obtain ⟨inner, isInner, isData⟩ := bind_ok_inv arrived.data
  refine ⟨inner, ?_, isData⟩
  rw [areBytes]
  exact isInner

/-- How message data come about, with the document that they are read from, if any: they are
built, read from a document, or received in a message, whether it verifies or not. -/
inductive Constructed : Option Json → MessageData → Prop where
  | built {body : Body} {account : Int} {network timestamp : Json} {now : Except Fault Int}
      {data : MessageData}
      (isBuilt : build body (.int account) network timestamp now = .ok data) :
      Constructed none data
  | read {document : Json} {data : MessageData} (isRead : ofDocument document = .ok data) :
      Constructed (some document) data
  | received {document inner : Json} {message : Message}
      (isReceived : Message.ofDocument document = .ok message)
      (isInner : ((document.field "dataBytes").bind Json.base64).bind Message.readData =
        .ok inner) :
      Constructed (some inner) message.data

/-- Data are well-formed exactly if the document that they are read from is consistent; so data
that are built always are. -/
theorem wellFormed_iff_consistent {document? : Option Json}
    (constructed : Constructed document? data) :
    data.WellFormed ↔ ∀ document ∈ document?, Consistent document := by
  cases constructed with
  | built isBuilt =>
    refine iff_of_true (wellFormed_of_build isBuilt) ?_
    intro document isDocument
    cases isDocument
  | @read document _ isRead =>
    rw [ofDocument_wellFormed_iff isRead]
    simp
  | @received _ inner _ isReceived isInner =>
    obtain ⟨other, isOther, isRead⟩ := exists_inner isReceived
    obtain rfl := Except.ok.inj (isOther.symm.trans isInner)
    rw [ofDocument_wellFormed_iff isRead]
    simp

/-- A document that tells its type by a truth value and its account by a text. -/
def spelledDocument : Json :=
  .obj [("castAddBody", .obj [("text", .str "hi")]), ("type", .bool true), ("fid", .str " +7 "),
    ("timestamp", .int 5), ("network", .int 3)]

/-- A post is built without a time, a document is read that spells its numbers otherwise, and
so is a message that verifies. -/
theorem spelled_wellFormed :
    (∃ data, build Message.samplePost (.int 1) (.int 2) .null (.ok 1700000000) = .ok data ∧
      data.WellFormed) ∧
    (∃ data, ofDocument spelledDocument = .ok data ∧ data.WellFormed) ∧
    ∃ message,
      Message.ofDocument (Message.sign Message.sampleData Message.sampleSigner).bareDocument =
        .ok message ∧
      message.verify = true ∧ message.data.WellFormed := by
  refine ⟨?_, ?_, ?_⟩
  · obtain ⟨data, isBuilt⟩ : ∃ data, build Message.samplePost (.int 1) (.int 2) .null
        (.ok 1700000000) = .ok data := ⟨_, rfl⟩
    exact ⟨data, isBuilt, (wellFormed_iff_consistent (.built isBuilt)).mpr nofun⟩
  · obtain ⟨data, isRead⟩ : ∃ data, ofDocument spelledDocument = .ok data := ⟨_, rfl⟩
    refine ⟨data, isRead, (wellFormed_iff_consistent (.read isRead)).mpr ?_⟩
    rintro document ⟨⟩
    exact ⟨⟨.bool true, rfl, rfl⟩, .str " +7 ", 7, rfl, rfl, by decide⟩
  · have faithful := Message.sign_faithful Message.typed_sampleData Message.sampleSigner
    have isMessage := Message.ofDocument_bareDocument faithful rfl rfl
    have verified := (Message.verify_recovered faithful rfl).trans Message.verify_sampleMessage
    have isInner := Message.readData_bareDocument faithful
    refine ⟨_, isMessage, verified,
      (wellFormed_iff_consistent (.received isMessage isInner)).mpr ?_⟩
    rintro document ⟨⟩
    show Consistent Message.sampleData.toDocument.sortKeys
    rw [Message.sortKeys_sampleData]
    exact ⟨⟨.int 1, rfl, rfl⟩, .int 1, 1, rfl, rfl, by decide⟩

end MessageData

/-! ## A message that contradicts itself -/

namespace Message

/-- The change of a name that says to be a post, of no account. -/
def contradiction : MessageData :=
  ⟨.castAdd, .int 0, .int 5, .mainnet, .profile .username (.str "ann")⟩

def contradictionText : String :=
  "\x7b\"fid\":0,\"network\":1,\"timestamp\":5,\"type\":1," ++
    "\"userDataBody\":\x7b\"type\":6,\"value\":\"ann\"\x7d\x7d"

def contradictionHash : Bytes :=
  [22, 177, 130, 148, 247, 236, 240, 126, 116, 215, 103, 72, 11, 184, 187, 112, 35, 81, 210, 179]

def contradictionSignature : Bytes :=
  [157, 202, 97, 151, 172, 13, 33, 236, 100, 84, 140, 21, 144, 144, 159, 59,
    210, 253, 119, 243, 10, 109, 196, 224, 138, 116, 73, 20, 66, 126, 146, 248,
    45, 121, 27, 0, 173, 205, 103, 233, 196, 116, 103, 244, 83, 34, 107, 178,
    252, 77, 155, 158, 103, 196, 9, 194, 208, 103, 144, 105, 241, 87, 63, 5]

theorem typed_contradiction : contradiction.Typed :=
  ⟨rfl, ⟨0, rfl⟩, ⟨5, rfl⟩, rfl, .profile rfl "ann"⟩

theorem sortKeys_contradiction : contradiction.toDocument.sortKeys =
    .obj [("fid", .int 0), ("network", .int 1), ("timestamp", .int 5), ("type", .int 1),
      ("userDataBody", .obj [("type", .int 6), ("value", .str "ann")])] := by
  simp [contradiction, MessageData.toDocument, Body.toDocument, Body.key, Json.sortKeys,
    Json.sortFields, List.mergeSort, List.MergeSort.Internal.splitInTwo, MessageType.code,
    Network.code, ProfileField.code]

theorem encode_contradiction : contradiction.encode = Utf8.encode contradictionText := by
  rw [MessageData.encode, Json.canonical, Json.canonicalChars, sortKeys_contradiction]
  decide +kernel

theorem contentHash_contradiction :
    contentHash (Utf8.encode contradictionText) = contradictionHash := by
  decide +kernel

theorem verify_contradiction :
    Ed25519.verify sampleKey contradictionHash contradictionSignature = true := by
  decide +kernel

/-- The message that the holder of a key can make of it. -/
def contradictoryMessage : Message :=
  ⟨contradiction, contradictionHash, contradictionSignature, sampleKey, .blake3, .ed25519, none⟩

/-- Who reads it from its wire document finds it verified. -/
theorem contradiction_verifies :
    ∃ message, (readData contradictoryMessage.toWire).bind ofDocument = .ok message ∧
      message.verify = true ∧ message.data.type ≠ message.data.body.messageType ∧
      message.data.account = .int 0 ∧ ¬message.data.WellFormed := by
  have faithful : contradictoryMessage.Faithful := ⟨typed_contradiction, rfl, rfl, rfl⟩
  have verified : contradictoryMessage.recovered.verify = true := by
    refine (verify_iff _).mpr ⟨?_, ?_, verify_contradiction⟩
    · rintro bytes ⟨⟩
      exact (MessageData.encode_recovered contradiction).symm
    · show contentHash contradiction.recovered.encode = contradictionHash
      rw [MessageData.encode_recovered, encode_contradiction, contentHash_contradiction]
  refine ⟨_, read_toWire faithful, verified, nofun, rfl, ?_⟩
  intro wellFormed
  cases wellFormed.type

end Message

end Provisioning
