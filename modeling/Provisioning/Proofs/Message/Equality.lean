import Provisioning.Proofs.Json.Sameness
import Provisioning.Proofs.Message.Wire

/-!
# Equal messages

Two messages are equal if their data, hashes, signatures, signers and schemes are; the bytes
that a message arrived with do not count (`Message.same`). A wire document does not tell a
parent that is an empty text from no parent at all, and both are read as none. That is the one
difference that the wire can make to a signed message of a made body: any other comes back
as it was, field by field (`Message.read_back_equal_iff`).
-/

namespace Provisioning

/-! ## Values are the same as themselves -/

namespace Json

theorem same_text (text : String) : same (.str text) (.str text) = true := by
  simp [same]

theorem same_number (number : Int) : same (.int number) (.int number) = true := by
  simp [same, isNumber, sameNumber, integer?]

theorem same_ofText? (text : Option String) : same (.ofText? text) (.ofText? text) = true := by
  cases text with
  | none => rfl
  | some text => exact same_text text

theorem sameItems_self {items : List Json} (all : ∀ item ∈ items, same item item = true) :
    sameItems items items = true := by
  have mapped := sameItems_map all
  rwa [List.map_id'] at mapped

theorem sameItems_texts (texts : List String) :
    sameItems (texts.map .str) (texts.map .str) = true := by
  apply sameItems_self
  intro item member
  obtain ⟨text, -, rfl⟩ := List.mem_map.mp member
  exact same_text text

theorem sameItems_numbers (numbers : List Int) :
    sameItems (numbers.map .int) (numbers.map .int) = true := by
  apply sameItems_self
  intro item member
  obtain ⟨number, -, rfl⟩ := List.mem_map.mp member
  exact same_number number

end Json

/-! ## Bodies that come back as they were -/

namespace Body

/-- What a post is a reply to; the change of a profile field is none. -/
def parent : Body → Json
  | .profile .. => .null
  | .post _ _ _ _ parent => parent

/-- The body as a reply to nothing. -/
def withoutParent : Body → Body
  | .profile field value => .profile field value
  | .post text embeds mentions positions _ => .post text embeds mentions positions .null

variable {body : Body}

theorem Typed.same_self (typed : body.Typed) : body.same body = true := by
  cases typed with
  | profile known text => simp [same, Json.same_text]
  | post text embeds mentions positions parent =>
    simp only [same, Json.same_text, Json.sameItems_texts, Json.sameItems_numbers,
      Json.same_ofText?, Bool.and_self]

/-- A parent that is no empty text is kept. -/
theorem Typed.recovered_of_parent (typed : body.Typed) (named : body.parent ≠ .str "") :
    body.recovered = body := by
  cases typed with
  | profile => rfl
  | post text embeds mentions positions parent =>
    cases parent with
    | none => rfl
    | some parent =>
      have given : parent ≠ "" := fun empty => named (congrArg Json.str empty)
      simp [recovered, Json.ofText?, Json.truthy, given]

/-- A parent that is an empty text is lost. -/
theorem recovered_of_empty (empty : body.parent = .str "") :
    body.recovered = body.withoutParent := by
  cases body with
  | profile => cases empty
  | post text embeds mentions positions parent =>
    cases empty
    rfl

theorem not_same_withoutParent (empty : body.parent = .str "") :
    body.withoutParent.same body = false := by
  cases body with
  | profile => cases empty
  | post text embeds mentions positions parent =>
    cases empty
    simp [withoutParent, same, Json.same, Json.isNumber]

/-- What a document gives back of a body is the body, but for an empty parent. -/
theorem Typed.same_recovered_iff (typed : body.Typed) :
    body.recovered.same body = true ↔ body.parent ≠ .str "" := by
  constructor
  · intro equal empty
    rw [recovered_of_empty empty, not_same_withoutParent empty] at equal
    exact Bool.false_ne_true equal
  · intro named
    rw [typed.recovered_of_parent named]
    exact typed.same_self

end Body

/-! ## Messages that come back as they were -/

theorem MessageData.Typed.same_recovered_iff {data : MessageData} (typed : data.Typed) :
    data.recovered.same data = true ↔ data.body.parent ≠ .str "" := by
  obtain ⟨account, isAccount⟩ := typed.account
  obtain ⟨timestamp, isTimestamp⟩ := typed.timestamp
  rw [← typed.body.same_recovered_iff]
  simp only [same, recovered, isAccount, isTimestamp, Json.same_number, beq_self_eq_true,
    Bool.true_and]

namespace Message

theorem same_recovered (message : Message) :
    message.recovered.same message = message.data.recovered.same message.data := by
  simp [same, recovered]

/-- A signed message holds the bytes of its data, as the one that is read does. -/
theorem recovered_sign (data : MessageData) (signer : DelegatedSigner) :
    (sign data signer).recovered = { sign data signer with data := data.recovered } := rfl

/-- A signed message of a made body is read from its wire document as an equal message, exactly
if it does not reply to an empty text; it then comes back with every field, the bytes of its
data included. A reply to an empty text comes back as a reply to nothing, with no other
field changed. -/
theorem read_back_equal_iff {body : Body} (made : body.Made) {account : Int}
    (positive : 0 < account) {network : Network}
    (known : Network.ofCode? network.code = some network) (timestamp : Int)
    (now : Except Fault Int) (signer : DelegatedSigner) :
    ∃ data received,
      MessageData.build body (.int account) (.int network.code) (.int timestamp) now =
        .ok data ∧
      (readData (sign data signer).toWire).bind ofDocument = .ok received ∧
      (received.same (sign data signer) = true ↔ body.parent ≠ .str "") ∧
      (body.parent ≠ .str "" → received = sign data signer) ∧
      (body.parent = .str "" →
        received = { sign data signer with data := { data with body := body.withoutParent } }) := by
  have typed := MessageData.typed_of_body made.typed known account timestamp
  refine ⟨_, _, MessageData.build_eq_ok positive known timestamp now,
    read_toWire (sign_faithful typed signer), ?_, ?_, ?_⟩
  · rw [same_recovered]
    exact typed.same_recovered_iff
  · intro named
    rw [recovered_sign, MessageData.recovered, made.typed.recovered_of_parent named]
    rfl
  · intro empty
    rw [recovered_sign, MessageData.recovered, Body.recovered_of_empty empty]

/-- A reply with everything that a post can have. -/
def sampleReply : Body :=
  .post (.str "see \"😀\"") [.str "u", .str ""] [.int 7, .int (-1)] [.int 0, .int 4]
    (.str "chain://1")

theorem sampleReply_read_back :
    sampleReply.Made ∧ (0 : Int) < 9 ∧ Network.ofCode? Network.devnet.code = some .devnet ∧
    ∃ data received,
      MessageData.build sampleReply (.int 9) (.int Network.devnet.code) (.int (-5)) (.ok 0) =
        .ok data ∧
      (readData (sign data sampleSigner).toWire).bind ofDocument = .ok received ∧
      received.same (sign data sampleSigner) = true ∧ received = sign data sampleSigner := by
  have made : sampleReply.Made :=
    .post "see \"😀\"" ["u", ""] [7, -1] [0, 4] (some "chain://1") rfl
  have known : Network.ofCode? Network.devnet.code = some .devnet := rfl
  have named : sampleReply.parent ≠ .str "" := by simp [sampleReply, Body.parent]
  obtain ⟨data, received, built, read, equal, whole, -⟩ :=
    read_back_equal_iff made (show (0 : Int) < 9 by decide) known (-5) (.ok 0) sampleSigner
  exact ⟨made, by decide, known, data, received, built, read, equal.mpr named, whole named⟩

/-- A post that replies to an empty text. -/
def emptyReply : Body :=
  .post (.str "hi") [] [] [] (.str "")

def emptyReplyData : MessageData :=
  ⟨.castAdd, .int 1, .int 5, .mainnet, emptyReply⟩

/-- The wire gives another message back. -/
theorem emptyReply_differs :
    emptyReply.Made ∧
    MessageData.build emptyReply (.int 1) (.int Network.mainnet.code) (.int 5) (.ok 0) =
      .ok emptyReplyData ∧
    ∃ received,
      (readData (sign emptyReplyData sampleSigner).toWire).bind ofDocument = .ok received ∧
      received.same (sign emptyReplyData sampleSigner) = false := by
  have made : emptyReply.Made := .post "hi" [] [] [] (some "") rfl
  have known : Network.ofCode? Network.mainnet.code = some .mainnet := rfl
  have typed : emptyReplyData.Typed := MessageData.typed_of_body made.typed known 1 5
  refine ⟨made, MessageData.build_eq_ok (by decide) known 5 (.ok 0), _,
    read_toWire (sign_faithful typed sampleSigner), ?_⟩
  rw [same_recovered, Bool.eq_false_iff]
  intro equal
  exact typed.same_recovered_iff.mp equal rfl

end Message

end Provisioning
