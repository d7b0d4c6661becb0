import Provisioning.Http
import Provisioning.Proofs.Json.RoundTrip

/-!
# Documents in responses

A response that holds a document has it in the plain style, in visible ASCII characters and
blanks whatever the texts inside are (`Json.plainBytes_plain`). The body begins with a
character that is no blank, so it does not count as empty, and it has no zero byte and no
byte order mark, so it is not taken for another encoding. A regular document therefore comes
out of the response as it was put in, members in their order
(`Http.Response.document_ofJson`).
-/

namespace Provisioning

/-! ## Bodies in ASCII -/

namespace Json

theorem plainBytes_eq_map (document : Json) :
    document.plainBytes = (write spaced document).map fun c => UInt8.ofNat c.toNat :=
  Utf8.encodeChars_of_ascii fun c member =>
    (within_write spaced_keepsTo document c member).ascii

/-- Any document is posted in visible ASCII characters and blanks. -/
theorem plainBytes_plain (document : Json) :
    ∀ byte ∈ document.plainBytes, 0x20 ≤ byte.toNat ∧ byte.toNat < 0x7f := by
  rw [plainBytes_eq_map]
  intro byte member
  obtain ⟨c, inside, rfl⟩ := List.mem_map.mp member
  have plain : IsPlain c := within_write spaced_keepsTo document c inside
  rw [Utf8.toNat_ofNat_of_lt (Nat.lt_trans plain.ascii (by decide))]
  exact plain

/-- What is posted of a document is not blank. -/
theorem plainBytes_not_blank (document : Json) :
    document.plainBytes.all Bytes.isBlank = false := by
  obtain ⟨c, tail, written, opens⟩ := write_eq_cons spaced document
  have plain : IsPlain c := by
    refine within_write spaced_keepsTo document c ?_
    rw [written]
    exact List.mem_cons_self
  have value : (UInt8.ofNat c.toNat).toNat = c.toNat :=
    Utf8.toNat_ofNat_of_lt (Nat.lt_trans plain.ascii (by decide))
  have solid : c.toNat ≠ 0x20 := by
    intro space
    have isSpaceChar : c = ' ' := Char.toNat_inj.mp space
    rw [isSpaceChar] at opens
    exact absurd opens.solid (by decide)
  have first : Bytes.isBlank (UInt8.ofNat c.toNat) = false := by
    have low := plain.1
    simp only [Bytes.isBlank, Bool.or_eq_false_iff, beq_eq_false_iff_ne, Bool.and_eq_false_iff,
      decide_eq_false_iff_not, UInt8.le_iff_toNat_le, ← UInt8.toNat_inj, Ne, value]
    exact ⟨solid, .inr (by simp only [UInt8.reduceToNat]; omega)⟩
  rw [plainBytes_eq_map, written, List.map_cons, List.all_cons, first, Bool.false_and]

end Json

/-! ## Documents that come back -/

namespace Http.Response

variable {payload : Json}

theorem document_ofJson (regular : payload.Regular) (status : Int) :
    (ofJson status payload).document = .ok payload := by
  rw [document, ofJson, payload.plainBytes_not_blank]
  exact Json.readBytes_plainBytes regular

/-- A regular document is read from a response as it was put in, whatever the status, and
travels in ASCII. -/
theorem ofJson_round_trip (regular : payload.Regular) (status : Int) :
    (ofJson status payload).document = .ok payload ∧
      ∀ byte ∈ (ofJson status payload).body, byte.toNat < 0x80 := by
  refine ⟨document_ofJson regular status, fun byte member => ?_⟩
  exact Nat.lt_trans (payload.plainBytes_plain byte member).2 (by decide)

/-- A document with members out of order, a character beyond sixteen bits, a control
character, and values that are easily taken for one another. -/
def mixedPayload : Json :=
  .obj [("b", .arr [.int 1, .bool true, .str "1", .null, .arr [], .obj []]),
    ("😀\x00", .str "\"\\ü"), ("a", .int (-18446744073709551617))]

theorem mixedPayload_round_trip :
    mixedPayload.Regular ∧ (ofJson 503 mixedPayload).document = .ok mixedPayload ∧
      ∀ byte ∈ (ofJson 503 mixedPayload).body, byte.toNat < 0x80 := by
  have regular : mixedPayload.Regular := by
    simp [mixedPayload, Json.Regular, Json.RegularItems, Json.RegularFields, Json.keysOf]
  exact ⟨regular, ofJson_round_trip regular 503⟩

end Http.Response

end Provisioning
