import Provisioning.Message
import Provisioning.Proofs.Bytes.Base64
import Provisioning.Proofs.Except
import Provisioning.Proofs.Message.Typed

/-!
# Reading settles

Reading a wire document passes over much: members that it does not ask for, characters
that are no base64, blanks between hexadecimal digits, the data beside the encoded ones.
Inside a body any value is taken. None of that is left in the message: its wire document
is read as the message again (`Message.read_settles`), whether it verifies or not. The
data are taken from the bytes that the message arrived with, which the wire document
carries as they are; what the numbers of the data beside them are read back as
(`Json.reread`) does not matter.
-/

namespace Provisioning

open Json (find?)

/-! ## Members of enumerations -/

theorem HashScheme.code_ofCode? {code : Int} {scheme : HashScheme}
    (known : ofCode? code = some scheme) : scheme.code = code := by
  unfold ofCode? at known
  split at known
  · cases known
    rfl
  · cases known

theorem SignatureScheme.code_ofCode? {code : Int} {scheme : SignatureScheme}
    (known : ofCode? code = some scheme) : scheme.code = code := by
  unfold ofCode? at known
  split at known <;> cases known <;> rfl

/-! ## Bytes inside documents -/

theorem Json.base64_encode (bytes : Bytes) :
    Json.base64 (.str (Base64.encode bytes)) = .ok bytes := by
  have ascii : (Base64.encodeChars bytes).all (fun c => c.toNat < 128) = true := by
    rw [List.all_eq_true]
    intro c member
    exact decide_eq_true (Base64.ascii_encodeChars bytes c member)
  simp only [Json.base64, Base64.encode, String.toList_ofList, ascii, if_true,
    Base64.decode?_encodeChars]

theorem Json.markedHex_marked (bytes : Bytes) :
    Json.markedHex (.str (Hex.marked bytes)) = .ok bytes := by
  have digits : (Hex.marked bytes).toList.drop 2 = (Hex.encode bytes).toList := by
    simp [Hex.marked]
  simp only [Json.markedHex, digits, Hex.decode_encode]

namespace Message

variable {document : Json} {message : Message} {bytes : Bytes}

/-! ## What reading takes -/

/-- A message as reading leaves it: the data are those of the bytes that it arrived with,
and the schemes are members of their enumerations. -/
structure Arrived (message : Message) (bytes : Bytes) : Prop where
  received : message.received = some bytes
  data : (readData bytes).bind MessageData.ofDocument = .ok message.data
  hashScheme : HashScheme.ofCode? message.hashScheme.code = some message.hashScheme
  signatureScheme :
    SignatureScheme.ofCode? message.signatureScheme.code = some message.signatureScheme

/-- What reading a wire document takes from it. -/
theorem arrived_of_ofDocument (read : ofDocument document = .ok message) :
    ∃ bytes, (document.field "dataBytes").bind Json.base64 = .ok bytes ∧
      message.Arrived bytes := by
  obtain ⟨text, isText, read⟩ := bind_ok_inv read
  obtain ⟨bytes, areBytes, read⟩ := bind_ok_inv read
  obtain ⟨inside, isInside, read⟩ := bind_ok_inv read
  obtain ⟨data, isData, read⟩ := bind_ok_inv read
  obtain ⟨hashText, -, read⟩ := bind_ok_inv read
  obtain ⟨hash, -, read⟩ := bind_ok_inv read
  obtain ⟨signatureText, -, read⟩ := bind_ok_inv read
  obtain ⟨signature, -, read⟩ := bind_ok_inv read
  obtain ⟨signerText, -, read⟩ := bind_ok_inv read
  obtain ⟨signer, -, read⟩ := bind_ok_inv read
  obtain ⟨hashCode, -, read⟩ := bind_ok_inv read
  obtain ⟨hashScheme, isHashScheme, read⟩ := bind_ok_inv read
  obtain ⟨signatureCode, -, read⟩ := bind_ok_inv read
  obtain ⟨signatureScheme, isSignatureScheme, read⟩ := bind_ok_inv read
  cases read
  obtain ⟨code, -, hashKnown⟩ := Json.member_inv isHashScheme
  obtain ⟨code', -, signatureKnown⟩ := Json.member_inv isSignatureScheme
  refine ⟨bytes, ?_, rfl, ?_, ?_, ?_⟩
  · rw [isText]
    exact areBytes
  · rw [isInside]
    exact isData
  · rw [HashScheme.code_ofCode? hashKnown, hashKnown]
  · rw [SignatureScheme.code_ofCode? signatureKnown, signatureKnown]

/-! ## The wire document of any message -/

/-- Of a wire document only the data may be changed by reading it back. -/
theorem reread_toDocument (message : Message) :
    message.toDocument.reread =
      .obj [("data", message.data.toDocument.reread),
        ("dataBytes", .str (Base64.encode message.encodedData)),
        ("hash", .str (Hex.marked message.hash)),
        ("hashScheme", .int message.hashScheme.code),
        ("signature", .str (Base64.encode message.signature)),
        ("signatureScheme", .int message.signatureScheme.code),
        ("signer", .str (Hex.marked message.signer))] := by
  simp only [toDocument, Json.reread, Json.rereadFields]
  rw [Json.ofMembers_of_nodup (by simp [Json.keysOf])]

theorem readData_toWire (message : Message) :
    readData message.toWire = .ok message.toDocument.reread := by
  rw [readData, toWire, Json.plainBytes, Json.readBytes_write Json.spaced_legible]

theorem Arrived.ofDocument_reread (arrived : message.Arrived bytes) :
    ofDocument message.toDocument.reread = .ok message := by
  have encoded : message.encodedData = bytes := by
    rw [encodedData, arrived.received, Option.getD_some]
  obtain ⟨inside, isInside, isData⟩ := bind_ok_inv arrived.data
  rw [reread_toDocument, encoded]
  simp [ofDocument, Json.field, Json.fieldD, find?, Json.base64_encode,
    Json.markedHex_marked, isInside, isData, Json.member_code arrived.hashScheme,
    Json.member_code arrived.signatureScheme, bind, Except.bind, pure, Except.pure,
    ← arrived.received]

theorem Arrived.read_toWire (arrived : message.Arrived bytes) :
    (readData message.toWire).bind ofDocument = .ok message := by
  rw [readData_toWire, Except.bind, arrived.ofDocument_reread]

/-- However loose the document that a message was read from, the message is sent as a
document that is read as that same message, with the bytes that it arrived with. So it
verifies as before, and is sent again as the same bytes. -/
theorem read_settles (read : ofDocument document = .ok message) :
    (readData message.toWire).bind ofDocument = .ok message := by
  obtain ⟨bytes, -, arrived⟩ := arrived_of_ofDocument read
  exact arrived.read_toWire

/-- A document that reading lets pass: a truth value stands beside the encoded data, there
is a blank in the base64, the encoded data spell integers as a text, a fraction and a truth
value and hold an infinite number, the marks of the hexadecimal texts are none, and the
schemes are missing. -/
def looseDocument : Json :=
  .obj [("data", .bool false), ("note", .null),
    ("dataBytes", .str ("eyJ0eX BlIjoxMSwgImZpZCI6IjFfMCIsICJ0aW1lc3RhbXAiOjUuNzUsICJuZXR3b3JrIjp0" ++
      "cnVlLCAidXNlckRhdGFCb2R5Ijp7InR5cGUiOjMsICJ2YWx1ZSI6WzFlNDAwLCAtNWUtOF19fQ==!")),
    ("hash", .str "?!AB cd"), ("signature", .str "="), ("signer", .str "")]

theorem looseDocument_settles :
    ∃ message, ofDocument looseDocument = .ok message ∧
      message.hash = [0xab, 0xcd] ∧ message.signature = [] ∧ message.signer = [] ∧
      (readData message.toWire).bind ofDocument = .ok message := by
  have fields : (ofDocument looseDocument).toOption.map
      (fun message => (message.hash, message.signature, message.signer)) =
        some ([0xab, 0xcd], [], []) := by
    decide +kernel
  cases read : ofDocument looseDocument with
  | error e => rw [read] at fields; cases fields
  | ok message =>
    rw [read] at fields
    simp only [Except.toOption, Option.map_some, Option.some.injEq, Prod.mk.injEq] at fields
    obtain ⟨hash, signature, signer⟩ := fields
    exact ⟨message, rfl, hash, signature, signer, read_settles read⟩

end Message

end Provisioning
