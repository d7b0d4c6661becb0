import Provisioning.Bytes.Base64

/-!
# Base64 reads back

The lenient reader of base64 gives back what the writer was given, whatever the
length of the last group (`Base64.decode?_encodeChars`). The written text is ASCII
(`Base64.ascii_encodeChars`).
-/

namespace Provisioning.Base64

theorem value?_digit {n : Nat} (small : n < 64) : value? (digit n) = some n := by
  have all : ∀ n ∈ List.range 64, value? (digit n) = some n := by decide
  exact all n (List.mem_range.mpr small)

theorem digit_ne_pad {n : Nat} (small : n < 64) : digit n ≠ '=' := by
  have all : ∀ n ∈ List.range 64, digit n ≠ '=' := by decide
  exact all n (List.mem_range.mpr small)

theorem digit_toNat_lt {n : Nat} (small : n < 64) : (digit n).toNat < 128 := by
  have all : ∀ n ∈ List.range 64, (digit n).toNat < 128 := by decide
  exact all n (List.mem_range.mpr small)

/-! ## One character of the alphabet, at each position of a group -/

variable {n bits pads : Nat} {rest : List Char}

theorem decodeFrom_first_digit (small : n < 64) :
    decodeFrom .first pads (digit n :: rest) = decodeFrom (.second n) 0 rest := by
  rw [decodeFrom.eq_def]
  simp [digit_ne_pad small, value?_digit small]

theorem decodeFrom_second_digit (small : n < 64) :
    decodeFrom (.second bits) pads (digit n :: rest) =
      (decodeFrom (.third (n % 16)) 0 rest).map (UInt8.ofNat (bits * 4 + n / 16) :: ·) := by
  rw [decodeFrom.eq_def]
  simp [digit_ne_pad small, value?_digit small]

theorem decodeFrom_third_digit (small : n < 64) :
    decodeFrom (.third bits) pads (digit n :: rest) =
      (decodeFrom (.fourth (n % 4)) 0 rest).map (UInt8.ofNat (bits * 16 + n / 4) :: ·) := by
  rw [decodeFrom.eq_def]
  simp [digit_ne_pad small, value?_digit small]

theorem decodeFrom_fourth_digit (small : n < 64) :
    decodeFrom (.fourth bits) pads (digit n :: rest) =
      (decodeFrom .first 0 rest).map (UInt8.ofNat (bits * 64 + n) :: ·) := by
  rw [decodeFrom.eq_def]
  simp [digit_ne_pad small, value?_digit small]

theorem byte_eq {byte : UInt8} {n : Nat} (value : n = byte.toNat) : UInt8.ofNat n = byte := by
  rw [value]
  exact UInt8.ofNat_toNat

/-! ## Whole texts -/

/-- Written bytes read back; what stands behind whole groups is read on its own. -/
theorem decode?_encodeChars (bytes : Bytes) : decode? (encodeChars bytes) = some bytes := by
  unfold decode?
  generalize 0 = pads
  induction bytes using encodeChars.induct generalizing pads with
  | case1 => simp [encodeChars, decodeFrom]
  | case2 a =>
    have bound : a.toNat < 256 := a.toNat_lt_size
    simp only [encodeChars]
    rw [decodeFrom_first_digit (by omega), decodeFrom_second_digit (by omega)]
    have first : UInt8.ofNat (a.toNat / 4 * 4 + a.toNat % 4 * 16 / 16) = a := byte_eq (by omega)
    rw [first]
    simp [decodeFrom]
  | case3 a b =>
    have bound : a.toNat < 256 := a.toNat_lt_size
    have bound' : b.toNat < 256 := b.toNat_lt_size
    simp only [encodeChars]
    rw [decodeFrom_first_digit (by omega), decodeFrom_second_digit (by omega),
      decodeFrom_third_digit (by omega)]
    have first : UInt8.ofNat (a.toNat / 4 * 4 + (a.toNat % 4 * 16 + b.toNat / 16) / 16) = a :=
      byte_eq (by omega)
    have second : UInt8.ofNat ((a.toNat % 4 * 16 + b.toNat / 16) % 16 * 16 +
        b.toNat % 16 * 4 / 4) = b := byte_eq (by omega)
    rw [first, second]
    simp [decodeFrom]
  | case4 a b c rest ih =>
    have bound : a.toNat < 256 := a.toNat_lt_size
    have bound' : b.toNat < 256 := b.toNat_lt_size
    have bound'' : c.toNat < 256 := c.toNat_lt_size
    simp only [encodeChars]
    rw [decodeFrom_first_digit (by omega), decodeFrom_second_digit (by omega),
      decodeFrom_third_digit (by omega), decodeFrom_fourth_digit (by omega), ih]
    have first : UInt8.ofNat (a.toNat / 4 * 4 + (a.toNat % 4 * 16 + b.toNat / 16) / 16) = a :=
      byte_eq (by omega)
    have second : UInt8.ofNat ((a.toNat % 4 * 16 + b.toNat / 16) % 16 * 16 +
        (b.toNat % 16 * 4 + c.toNat / 64) / 4) = b := byte_eq (by omega)
    have third : UInt8.ofNat ((b.toNat % 16 * 4 + c.toNat / 64) % 4 * 64 + c.toNat % 64) = c :=
      byte_eq (by omega)
    simp only [Option.map_some, first, second, third]

/-- Base64 is written in ASCII. -/
theorem ascii_encodeChars (bytes : Bytes) : ∀ c ∈ encodeChars bytes, c.toNat < 128 := by
  induction bytes using encodeChars.induct with
  | case1 => simp [encodeChars]
  | case2 a =>
    have bound : a.toNat < 256 := a.toNat_lt_size
    intro c member
    simp only [encodeChars, List.mem_cons, List.not_mem_nil, or_false] at member
    rcases member with rfl | rfl | rfl | rfl
    · exact digit_toNat_lt (by omega)
    · exact digit_toNat_lt (by omega)
    all_goals decide
  | case3 a b =>
    have bound : a.toNat < 256 := a.toNat_lt_size
    have bound' : b.toNat < 256 := b.toNat_lt_size
    intro c member
    simp only [encodeChars, List.mem_cons, List.not_mem_nil, or_false] at member
    rcases member with rfl | rfl | rfl | rfl
    · exact digit_toNat_lt (by omega)
    · exact digit_toNat_lt (by omega)
    · exact digit_toNat_lt (by omega)
    · decide
  | case4 a b c rest ih =>
    have bound : a.toNat < 256 := a.toNat_lt_size
    have bound' : b.toNat < 256 := b.toNat_lt_size
    have bound'' : c.toNat < 256 := c.toNat_lt_size
    intro d member
    simp only [encodeChars, List.mem_cons] at member
    rcases member with rfl | rfl | rfl | rfl | later
    · exact digit_toNat_lt (by omega)
    · exact digit_toNat_lt (by omega)
    · exact digit_toNat_lt (by omega)
    · exact digit_toNat_lt (by omega)
    · exact ih d later

end Provisioning.Base64
