import Provisioning.Ethereum.Abi
import Provisioning.Proofs.Bytes.Positional
import Provisioning.Proofs.Ethereum.Address
import Provisioning.Proofs.Text.Utf8

/-!
# Encoded values are decoded

What was encoded of values that fit their types is decoded as the values
(`Abi.decode_encode`), through any nesting of tuples and whatever stands behind the offsets. An
address fits in the spelling that decoding gives.
-/

namespace Provisioning

theorem Utf8.decodeLossy_encode (text : String) : decodeLossy (encode text) = text := by
  have chars (text : List Char) : decodeLossyChars (encodeChars text) = text := by
    induction text with
    | nil => simp [encodeChars, decodeLossyChars]
    | cons c rest ih =>
      rw [encodeChars] at ih
      rw [encodeChars, List.flatMap_cons]
      obtain ⟨lead, tail, bytes, item⟩ := step_encodeChar false c
        (rest.flatMap encodeChar)
      rw [bytes, decodeLossyChars]
      split
      · next n after taken =>
        rw [item] at taken
        cases taken
        rw [ih, toChar_toNat]
      · next after taken =>
        rw [item] at taken
        cases taken
  rw [decodeLossy, encode, chars, String.ofList_toList]

namespace Abi

/-! ## Parts of data -/

/-- The part stands at a place of the data. -/
def Stands (data : Bytes) (place : Nat) (part : Bytes) : Prop :=
  ∃ front back, data = front ++ part ++ back ∧ front.length = place

variable {data part : Bytes} {place : Nat}

theorem Stands.self (data : Bytes) : Stands data 0 data :=
  ⟨[], [], by simp, rfl⟩

theorem Stands.append {front back : Bytes} (stands : Stands data place (front ++ back)) :
    Stands data place front ∧ Stands data (place + front.length) back := by
  obtain ⟨before, behind, isData, isPlace⟩ := stands
  refine ⟨⟨before, back ++ behind, ?_, isPlace⟩, ⟨before ++ front, behind, ?_, ?_⟩⟩
  · rw [isData]
    simp only [List.append_assoc]
  · rw [isData]
    simp only [List.append_assoc]
  · rw [List.length_append, isPlace]

theorem Stands.length_le (stands : Stands data place part) :
    place + part.length ≤ data.length := by
  obtain ⟨before, behind, rfl, rfl⟩ := stands
  simp only [List.length_append]
  omega

theorem Stands.take_drop (stands : Stands data place part) :
    (data.drop place).take part.length = part := by
  obtain ⟨before, behind, rfl, rfl⟩ := stands
  simp

theorem wordAt_of_stands (stands : Stands data place part) (sized : part.length = 32) :
    wordAt data place = .ok part := by
  have isPart := stands.take_drop
  rw [sized] at isPart
  simp only [wordAt, isPart, sized]
  rfl

theorem length_word (n : Nat) : (word n).length = 32 :=
  Bytes.length_bigEndian 32 n

theorem toNat_word {n : Nat} (fits : n < 2 ^ 256) : Bytes.toNat (word n) = n :=
  Bytes.toNat_bigEndian (by simpa using fits)

theorem natAt_of_stands {n : Nat} (fits : n < 2 ^ 256) (stands : Stands data place (word n)) :
    natAt data place = .ok n := by
  rw [natAt, wordAt_of_stands stands (length_word n), Except.map, toNat_word fits]

/-! ## Words of single values -/

theorem lowBytes_zeros (size : Nat) (bytes : Bytes) :
    lowBytes size (List.replicate (32 - size) 0 ++ bytes) = .ok bytes := by
  simp [lowBytes]

theorem lowBytes_word {bits n : Nat} (whole : bits % 8 = 0) (most : bits ≤ 256)
    (fits : n < 2 ^ bits) : lowBytes (bits / 8) (word n) = .ok (Bytes.bigEndian (bits / 8) n) := by
  have isPower : 256 ^ (bits / 8) = 2 ^ bits := by
    rw [show (256 : Nat) = 2 ^ 8 from rfl, ← Nat.pow_mul,
      Nat.mul_div_cancel' (Nat.dvd_of_mod_eq_zero whole)]
  have narrow : n < 256 ^ (bits / 8) := isPower ▸ fits
  have zeros := Bytes.bigEndian_add narrow (32 - bits / 8)
  rw [Nat.sub_add_cancel (by omega)] at zeros
  rw [word, zeros]
  exact lowBytes_zeros _ _

theorem signedOf_word {bits : Nat} {n : Int} (most : bits ≤ 256)
    (low : -(2 ^ (bits - 1)) ≤ n) (high : n < 2 ^ (bits - 1)) :
    signedOf bits (word (n % 2 ^ 256).toNat) = .ok n := by
  have half : 2 ^ (bits - 1) ≤ 2 ^ 255 := Nat.pow_le_pow_right (by decide) (by omega)
  have cast : ((2 ^ (bits - 1) : Nat) : Int) = 2 ^ (bits - 1) := by simp
  rw [signedOf, toNat_word (by omega)]
  rw [← cast] at low high
  generalize 2 ^ (bits - 1) = bound at low high half ⊢
  by_cases negative : n < 0
  · have isWord : (n % 2 ^ 256).toNat = (n + 2 ^ 256).toNat := by omega
    simp only [isWord]
    rw [if_neg (by omega), if_pos (by omega)]
    congr 1
    omega
  · have isWord : (n % 2 ^ 256).toNat = n.toNat := by omega
    simp only [isWord]
    rw [if_pos (by omega)]
    congr 1
    omega

/-! ## Counted bytes -/

theorem length_padded (bytes : Bytes) :
    (padded bytes).length = (bytes.length + 31) / 32 * 32 := by
  simp only [padded, Bytes.padRight, List.length_append, List.length_replicate]
  omega

theorem countedAt_of_stands {bytes : Bytes} (fits : bytes.length < 2 ^ 256)
    (stands : Stands data place (counted bytes)) : countedAt data place = .ok bytes := by
  obtain ⟨isCount, isBytes⟩ := stands.append
  rw [length_word] at isBytes
  have isPadded := isBytes.take_drop
  rw [length_padded] at isPadded
  rw [countedAt, natAt_of_stands fits isCount]
  simp only [bind, Except.bind, isPadded, length_padded]
  simp [padded, Bytes.padRight, pure, Except.pure]

theorem length_lt_of_counted {bytes : Bytes} (short : data.length < 2 ^ 256)
    (stands : Stands data place (counted bytes)) : bytes.length < 2 ^ 256 := by
  have inside := stands.length_le
  rw [counted, List.length_append, length_word, length_padded] at inside
  omega

theorem length_counted_ge (bytes : Bytes) : 32 ≤ (counted bytes).length := by
  rw [counted, List.length_append, length_word]
  omega

/-! ## Values that fit -/

mutual

/-- The value is one of the type. Integers are as wide as contracts have them, fixed bytes
have their size, and the tuples inside have members. -/
def Fits : Kind → Arg → Prop
  | .uint bits, .int n => bits % 8 = 0 ∧ bits ≤ 256 ∧ 0 ≤ n ∧ n < 2 ^ bits
  | .int bits, .int n => bits ≤ 256 ∧ -(2 ^ (bits - 1)) ≤ n ∧ n < 2 ^ (bits - 1)
  | .address, .str text => ∃ address : Bytes, address.length = 20 ∧ text = Address.text address
  | .bool, .bool _ => True
  | .fixedBytes size, .bytes bytes => size ≤ 32 ∧ bytes.length = size
  | .bytes, .bytes _ => True
  | .string, .str _ => True
  | .tuple members, .list values => members ≠ [] ∧ FitAll members values
  | _, _ => False

def FitAll : List Kind → List Arg → Prop
  | [], [] => True
  | kind :: rest, value :: values => Fits kind value ∧ FitAll rest values
  | _, _ => False

end

mutual

theorem headSize_ge : ∀ (kind : Kind) (value : Arg), Fits kind value → 32 ≤ kind.headSize
  | .tuple members, .list values, fits => by
    have sizes := headSizes_ge members values fits.2
    have some : 0 < members.length := List.length_pos_iff.mpr fits.1
    rw [Kind.headSize]
    split <;> omega
  | .uint _, _, _ | .int _, _, _ | .address, _, _ | .bool, _, _ | .fixedBytes _, _, _
  | .bytes, _, _ | .string, _, _ => Nat.le_refl 32

theorem headSizes_ge : ∀ (members : List Kind) (values : List Arg), FitAll members values →
    32 * members.length ≤ headSizes members
  | [], _, _ => Nat.zero_le _
  | kind :: rest, value :: values, fits => by
    have here := headSize_ge kind value fits.1
    have others := headSizes_ge rest values fits.2
    rw [headSizes, List.length_cons]
    omega

end

/-! ## Encoding -/

theorem headSize_of_dynamic {kind : Kind} (isDynamic : kind.isDynamic = true) :
    kind.headSize = 32 := by
  cases kind with
  | tuple members =>
    rw [Kind.isDynamic] at isDynamic
    rw [Kind.headSize, if_pos isDynamic]
  | bytes | string => rfl
  | uint | int | address | bool | fixedBytes => cases isDynamic

mutual

/-- A value that fits is encoded: as its head if its type is static, and as something to
point at otherwise. -/
theorem encodeValue_ok : ∀ (kind : Kind) (value : Arg), Fits kind value →
    ∃ part, encodeValue kind value = .ok part ∧
      (kind.isDynamic = false → part.length = kind.headSize) ∧
      (kind.isDynamic = true → 32 ≤ part.length)
  | .uint bits, .int n, fits =>
    ⟨_, if_pos fits.2.2, fun _ => length_word _, nofun⟩
  | .int bits, .int n, fits =>
    ⟨_, if_pos fits.2, fun _ => length_word _, nofun⟩
  | .address, .str text, fits => by
    obtain ⟨address, sized, rfl⟩ := fits
    refine ⟨List.replicate 12 0 ++ address, ?_, fun _ => ?_, nofun⟩
    · rw [encodeValue, addressOf?, Address.ofText?_text sized]
    · simp [sized, Kind.headSize]
  | .bool, .bool b, _ => ⟨_, rfl, fun _ => length_word _, nofun⟩
  | .fixedBytes size, .bytes bytes, fits => by
    refine ⟨_, if_pos (Nat.le_of_eq fits.2), fun _ => ?_, nofun⟩
    have most := fits.1
    simp only [Bytes.padRight, List.length_append, List.length_replicate, fits.2, Kind.headSize]
    omega
  | .bytes, .bytes bytes, _ => ⟨_, rfl, nofun, fun _ => length_counted_ge bytes⟩
  | .string, .str text, _ => ⟨_, rfl, nofun, fun _ => length_counted_ge _⟩
  | .tuple members, .list values, fits => by
    obtain ⟨head, tail, encoded, sized, static⟩ :=
      encodeParts_ok members values (headSizes members) fits.2
    refine ⟨head ++ tail, ?_, fun isStatic => ?_, fun _ => ?_⟩
    · rw [encodeValue, encoded]
      rfl
    · rw [Kind.isDynamic] at isStatic
      rw [static isStatic, List.append_nil, sized, Kind.headSize, isStatic]
      rfl
    · have sizes := headSizes_ge members values fits.2
      have some : 0 < members.length := List.length_pos_iff.mpr fits.1
      rw [List.length_append, sized]
      omega

theorem encodeParts_ok : ∀ (members : List Kind) (values : List Arg) (offset : Nat),
    FitAll members values → ∃ head tail, encodeParts members values offset = .ok (head, tail) ∧
      head.length = headSizes members ∧ (anyDynamic members = false → tail = [])
  | [], [], _, _ => ⟨[], [], rfl, rfl, fun _ => rfl⟩
  | kind :: rest, value :: values, offset, fits => by
    obtain ⟨part, encoded, static, -⟩ := encodeValue_ok kind value fits.1
    rw [encodeParts, encoded, anyDynamic, headSizes]
    cases isDynamic : kind.isDynamic with
    | true =>
      obtain ⟨head, tail, others, sized, -⟩ :=
        encodeParts_ok rest values (offset + part.length) fits.2
      simp only [others, if_true]
      refine ⟨_, _, rfl, ?_, nofun⟩
      rw [List.length_append, length_word, sized, headSize_of_dynamic isDynamic]
    | false =>
      obtain ⟨head, tail, others, sized, none⟩ := encodeParts_ok rest values offset fits.2
      simp only [others, Bool.false_eq_true, if_false]
      refine ⟨_, _, rfl, ?_, fun isStatic => none (by simpa using isStatic)⟩
      rw [List.length_append, static isDynamic, sized]

end

/-! ## Decoding -/

mutual

/-- Where the part of a value stands, the value is decoded. -/
theorem decodeAt_of_stands : ∀ (kind : Kind) (value : Arg), Fits kind value →
    ∀ {part data : Bytes} {place : Nat}, encodeValue kind value = .ok part →
      data.length < 2 ^ 256 → Stands data place part → decodeAt data kind place = .ok value
  | .uint bits, .int n, fits, part, data, place, encoded, _, stands => by
    obtain ⟨whole, most, nonnegative, less⟩ := fits
    rw [encodeValue, if_pos ⟨nonnegative, less⟩] at encoded
    cases encoded
    have small : n.toNat < 2 ^ bits := by
      have cast : ((2 ^ bits : Nat) : Int) = 2 ^ bits := by simp
      omega
    have width : n.toNat < 256 ^ (bits / 8) := by
      rw [show (256 : Nat) = 2 ^ 8 from rfl, ← Nat.pow_mul,
        Nat.mul_div_cancel' (Nat.dvd_of_mod_eq_zero whole)]
      exact small
    rw [decodeAt, wordAt_of_stands stands (length_word _)]
    simp only [bind, Except.bind, lowBytes_word whole most small, pure, Except.pure,
      Bytes.toNat_bigEndian width, Int.toNat_of_nonneg nonnegative]
  | .int bits, .int n, fits, part, data, place, encoded, _, stands => by
    obtain ⟨most, low, high⟩ := fits
    rw [encodeValue, if_pos ⟨low, high⟩] at encoded
    cases encoded
    rw [decodeAt, wordAt_of_stands stands (length_word _)]
    simp only [bind, Except.bind, signedOf_word most low high, pure, Except.pure]
  | .address, .str text, fits, part, data, place, encoded, _, stands => by
    obtain ⟨address, sized, rfl⟩ := fits
    rw [encodeValue, addressOf?, Address.ofText?_text sized] at encoded
    cases encoded
    rw [decodeAt, wordAt_of_stands stands (by simp [sized])]
    simp only [bind, Except.bind, pure, Except.pure, lowBytes_zeros 20 address]
  | .bool, .bool b, _, part, data, place, encoded, _, stands => by
    cases encoded
    rw [decodeAt, wordAt_of_stands stands (length_word _)]
    cases b <;> rfl
  | .fixedBytes size, .bytes bytes, fits, part, data, place, encoded, _, stands => by
    obtain ⟨most, sized⟩ := fits
    rw [encodeValue, if_pos (Nat.le_of_eq sized)] at encoded
    cases encoded
    have whole : (Bytes.padRight 32 bytes).length = 32 := by
      simp only [Bytes.padRight, List.length_append, List.length_replicate]
      omega
    rw [decodeAt, wordAt_of_stands stands whole]
    subst sized
    simp [bind, Except.bind, pure, Except.pure, Bytes.padRight]
  | .bytes, .bytes bytes, _, part, data, place, encoded, short, stands => by
    cases encoded
    rw [decodeAt, countedAt_of_stands (length_lt_of_counted short stands) stands]
    rfl
  | .string, .str text, _, part, data, place, encoded, short, stands => by
    cases encoded
    rw [decodeAt, countedAt_of_stands (length_lt_of_counted short stands) stands]
    simp only [bind, Except.bind, pure, Except.pure, Utf8.decodeLossy_encode]
  | .tuple members, .list values, fits, part, data, place, encoded, short, stands => by
    obtain ⟨head, tail, parts, sized, -⟩ :=
      encodeParts_ok members values (headSizes members) fits.2
    rw [encodeValue, parts] at encoded
    cases encoded
    obtain ⟨isHead, isTail⟩ := stands.append
    rw [sized] at isTail
    have behind := headSizes_ge members values fits.2
    obtain ⟨checked, decoded⟩ := members_of_stands members values fits.2 parts short isHead
      isTail (Nat.add_le_add_left behind place)
    rw [decodeAt, checked]
    simp only [bind, Except.bind, decoded, pure, Except.pure]

/-- Where head and tail of the members stand, the offsets pass and the values are decoded. -/
theorem members_of_stands : ∀ (members : List Kind) (values : List Arg), FitAll members values →
    ∀ {offset : Nat} {head tail data : Bytes} {base place headEnd : Nat},
      encodeParts members values offset = .ok (head, tail) → data.length < 2 ^ 256 →
      Stands data place head → Stands data (base + offset) tail → headEnd ≤ base + offset →
      checkMembers data base headEnd members place = .ok () ∧
        decodeMembers data base members place = .ok values
  | [], [], _, _, _, _, _, _, _, _, _, _, _, _, _ => ⟨rfl, rfl⟩
  | kind :: rest, value :: values, fits, offset, head, tail, data, base, place, headEnd, encoded,
      short, isHead, isTail, behind => by
    obtain ⟨part, isPart, static, dynamic⟩ := encodeValue_ok kind value fits.1
    rw [encodeParts, isPart] at encoded
    rw [checkMembers, decodeMembers]
    cases isDynamic : kind.isDynamic with
    | true =>
      obtain ⟨head', tail', others, -⟩ :=
        encodeParts_ok rest values (offset + part.length) fits.2
      simp only [isDynamic, if_true, others] at encoded
      cases encoded
      obtain ⟨isOffset, isHead⟩ := isHead.append
      obtain ⟨stands, isTail⟩ := isTail.append
      have some := dynamic isDynamic
      have inside := stands.length_le
      rw [length_word] at isHead
      have isTarget := natAt_of_stands (show offset < 2 ^ 256 by omega) isOffset
      have isValue := decodeAt_of_stands kind value fits.1 isPart short stands
      rw [Nat.add_assoc] at isTail
      obtain ⟨checked, decoded⟩ :=
        members_of_stands rest values fits.2 others short isHead isTail
          (show headEnd ≤ base + (offset + part.length) by omega)
      have ahead : ¬(base + offset < headEnd ∨ data.length ≤ base + offset) := by omega
      simp only [if_true, isTarget, bind, Except.bind, if_neg ahead, checked, isValue, decoded,
        pure, Except.pure, and_self]
    | false =>
      obtain ⟨head', tail', others, -⟩ := encodeParts_ok rest values offset fits.2
      simp only [isDynamic, Bool.false_eq_true, if_false, others] at encoded
      cases encoded
      obtain ⟨stands, isHead⟩ := isHead.append
      rw [static isDynamic] at isHead
      have isValue := decodeAt_of_stands kind value fits.1 isPart short stands
      obtain ⟨checked, decoded⟩ :=
        members_of_stands rest values fits.2 others short isHead isTail behind
      simp only [Bool.false_eq_true, if_false, bind, Except.bind, checked, isValue, decoded,
        pure, Except.pure, and_self]

end

/-- Encoded values are decoded. -/
theorem decode_encode {members : List Kind} {values : List Arg} (fits : FitAll members values)
    {data : Bytes} (encoded : encode members values = .ok data) (short : data.length < 2 ^ 256) :
    decode members data = .ok values := by
  obtain ⟨head, tail, parts, sized, -⟩ :=
    encodeParts_ok members values (headSizes members) fits
  rw [encode, encodeValue, parts] at encoded
  cases encoded
  obtain ⟨isHead, isTail⟩ := (Stands.self (head ++ tail)).append
  rw [sized] at isTail
  have behind := headSizes_ge members values fits
  obtain ⟨checked, decoded⟩ := members_of_stands members values fits parts short isHead isTail
    (show 32 * members.length ≤ 0 + headSizes members by omega)
  rw [decode, checked]
  exact decoded

end Abi

end Provisioning
