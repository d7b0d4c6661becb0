import Provisioning.Text.Encoding

/-!
# UTF-8 reads back

Bytes that were written from characters are read back as those characters, one item
a character (`Utf8.step_encodeChar`, `Utf8.decodeWith?_encodeChars`). A text that
begins in ASCII and has no character zero is moreover taken for UTF-8 by
`Encoding.detect`, so that `Encoding.read?` needs no mark (`Encoding.read?_encodeChars`).
-/

namespace Provisioning

namespace Utf8

/-- A code point of a character is no surrogate, and below the limit. -/
theorem codePoint_cases (c : Char) :
    c.toNat < 0xd800 ∨ (0xdfff < c.toNat ∧ c.toNat < 0x110000) :=
  c.valid

theorem toNat_ofNat_of_lt {n : Nat} (small : n < 256) : (UInt8.ofNat n).toNat = n := by
  rw [UInt8.toNat_ofNat']
  exact Nat.mod_eq_of_lt small

/-- The bytes of a character make one item, and what follows is left. -/
theorem step_encodeChar (surrogates : Bool) (c : Char) (rest : Bytes) :
    ∃ lead tail, encodeChar c ++ rest = lead :: tail ∧
      step surrogates lead tail = (.code c.toNat, rest) := by
  have valid := codePoint_cases c
  unfold encodeChar
  simp only
  generalize c.toNat = n at valid
  split
  · next one =>
    refine ⟨_, rest, rfl, ?_⟩
    have lead := toNat_ofNat_of_lt (n := n) (by omega)
    simp [step, lead, one]
  split
  · next one two =>
    refine ⟨_, _ :: rest, rfl, ?_⟩
    have lead := toNat_ofNat_of_lt (n := 0xc0 + n / 64) (by omega)
    have last := toNat_ofNat_of_lt (n := 0x80 + n % 64) (by omega)
    simp only [step, lead, last, within]
    rw [if_neg (by omega), if_neg (by omega), if_pos (by omega), if_pos (by simp; omega)]
    have value : (0xc0 + n / 64 - 0xc0) * 64 + (0x80 + n % 64 - 0x80) = n := by omega
    rw [value]
  split
  · next one two three =>
    refine ⟨_, _ :: _ :: rest, rfl, ?_⟩
    have lead := toNat_ofNat_of_lt (n := 0xe0 + n / 4096) (by omega)
    have second := toNat_ofNat_of_lt (n := 0x80 + n / 64 % 64) (by omega)
    have last := toNat_ofNat_of_lt (n := 0x80 + n % 64) (by omega)
    simp only [step, lead, second, last, within]
    rw [if_neg (by omega), if_neg (by omega), if_neg (by omega), if_pos (by omega),
      if_pos (by simp only [Bool.and_eq_true, decide_eq_true_eq]; split <;> split <;> omega),
      if_pos (by simp only [Bool.and_eq_true, decide_eq_true_eq]; omega)]
    have value : (0xe0 + n / 4096 - 0xe0) * 4096 + (0x80 + n / 64 % 64 - 0x80) * 64 +
        (0x80 + n % 64 - 0x80) = n := by omega
    rw [value]
  · next one two three =>
    refine ⟨_, _ :: _ :: _ :: rest, rfl, ?_⟩
    have lead := toNat_ofNat_of_lt (n := 0xf0 + n / 262144) (by omega)
    have second := toNat_ofNat_of_lt (n := 0x80 + n / 4096 % 64) (by omega)
    have third := toNat_ofNat_of_lt (n := 0x80 + n / 64 % 64) (by omega)
    have last := toNat_ofNat_of_lt (n := 0x80 + n % 64) (by omega)
    simp only [step, lead, second, third, last, within]
    rw [if_neg (by omega), if_neg (by omega), if_neg (by omega), if_neg (by omega),
      if_pos (by omega),
      if_pos (by simp only [Bool.and_eq_true, decide_eq_true_eq]; split <;> split <;> omega),
      if_pos (by simp only [Bool.and_eq_true, decide_eq_true_eq]; omega),
      if_pos (by simp only [Bool.and_eq_true, decide_eq_true_eq]; omega)]
    have value : (0xf0 + n / 262144 - 0xf0) * 262144 + (0x80 + n / 4096 % 64 - 0x80) * 4096 +
        (0x80 + n / 64 % 64 - 0x80) * 64 + (0x80 + n % 64 - 0x80) = n := by omega
    rw [value]

theorem decodeWith?_encodeChar (surrogates : Bool) (c : Char) (rest : Bytes) :
    decodeWith? surrogates (encodeChar c ++ rest) =
      (decodeWith? surrogates rest).map (c :: ·) := by
  obtain ⟨lead, tail, bytes, item⟩ := step_encodeChar surrogates c rest
  rw [bytes, decodeWith?]
  split
  · next n after taken =>
    rw [item] at taken
    cases taken
    rw [toChar_toNat]
  · next after taken =>
    rw [item] at taken
    cases taken

/-- Written characters read back, whether or not surrogates are let through. -/
theorem decodeWith?_encodeChars (surrogates : Bool) (text : List Char) :
    decodeWith? surrogates (encodeChars text) = some text := by
  induction text with
  | nil => simp [encodeChars, decodeWith?]
  | cons c rest ih =>
    rw [encodeChars] at ih
    rw [encodeChars, List.flatMap_cons, decodeWith?_encodeChar, ih]
    rfl

theorem encodeChar_of_ascii {c : Char} (ascii : c.toNat < 0x80) :
    encodeChar c = [UInt8.ofNat c.toNat] := by
  simp [encodeChar, ascii]

/-- An ASCII text takes a byte for each character. -/
theorem encodeChars_of_ascii {text : List Char} (ascii : ∀ c ∈ text, c.toNat < 0x80) :
    encodeChars text = text.map fun c => UInt8.ofNat c.toNat := by
  induction text with
  | nil => rfl
  | cons c rest ih =>
    obtain ⟨first, others⟩ := List.forall_mem_cons.mp ascii
    have tail := ih others
    rw [encodeChars] at tail
    rw [encodeChars, List.flatMap_cons, encodeChar_of_ascii first, tail]
    rfl

theorem encodeChar_ne_nil (c : Char) : encodeChar c ≠ [] := by
  unfold encodeChar
  dsimp only
  repeat' split
  all_goals exact List.cons_ne_nil _ _

theorem encode_eq_nil_iff {text : String} : encode text = [] ↔ text = "" := by
  refine ⟨fun none => ?_, fun isEmpty => by rw [isEmpty]; rfl⟩
  cases chars : text.toList with
  | nil => exact String.toList_eq_nil_iff.mp chars
  | cons c rest =>
    rw [encode, encodeChars, chars, List.flatMap_cons] at none
    exact absurd (List.append_eq_nil_iff.mp none).1 (encodeChar_ne_nil c)

/-- Only the character zero has a zero byte. -/
theorem ne_zero_of_mem_encodeChar {c : Char} (nonzero : c.toNat ≠ 0) {byte : UInt8}
    (member : byte ∈ encodeChar c) : byte ≠ 0 := by
  have valid := codePoint_cases c
  have byteOf : ∀ n, 0 < n → n < 256 → UInt8.ofNat n ≠ 0 := by
    intro n positive small zero
    have value := congrArg UInt8.toNat zero
    rw [toNat_ofNat_of_lt small] at value
    exact absurd value (Nat.ne_of_gt positive)
  unfold encodeChar at member
  simp only at member
  split at member
  · next one =>
    rcases List.mem_singleton.mp member with rfl
    exact byteOf _ (by omega) (by omega)
  split at member
  · next one two =>
    simp only [List.mem_cons, List.not_mem_nil, or_false] at member
    rcases member with rfl | rfl <;> exact byteOf _ (by omega) (by omega)
  split at member
  · next one two three =>
    simp only [List.mem_cons, List.not_mem_nil, or_false] at member
    rcases member with rfl | rfl | rfl <;> exact byteOf _ (by omega) (by omega)
  · next one two three =>
    simp only [List.mem_cons, List.not_mem_nil, or_false] at member
    rcases member with rfl | rfl | rfl | rfl <;> exact byteOf _ (by omega) (by omega)

theorem ne_zero_of_mem_encodeChars {text : List Char} (nonzero : ∀ c ∈ text, c.toNat ≠ 0)
    {byte : UInt8} (member : byte ∈ encodeChars text) : byte ≠ 0 := by
  obtain ⟨c, inside, member⟩ := List.mem_flatMap.mp member
  exact ne_zero_of_mem_encodeChar (nonzero c inside) member

end Utf8

namespace Encoding

/-- Without a zero byte, and with an ASCII byte in front, a document is in UTF-8. -/
theorem detect_eq_utf8 {lead : UInt8} {rest : Bytes} (ascii : lead.toNat < 0x80)
    (nonzero : ∀ byte ∈ lead :: rest, byte ≠ 0) : detect (lead :: rest) = .utf8 0 := by
  have leadNonzero : lead ≠ 0 := nonzero lead List.mem_cons_self
  have zeros : ofZeros (lead :: rest) = .utf8 0 := by
    unfold ofZeros
    split
    · next a b c d tail bytes =>
      cases bytes
      have second : b ≠ 0 := nonzero b (by simp)
      rw [if_neg leadNonzero, if_neg second]
    · next a b bytes =>
      cases bytes
      have second : b ≠ 0 := nonzero b (by simp)
      rw [if_neg leadNonzero, if_neg second]
    · rfl
  unfold detect
  split
  · next bytes => cases bytes; exact absurd rfl leadNonzero
  · next bytes => cases bytes; simp at ascii
  · next bytes => cases bytes; simp at ascii
  · next bytes => cases bytes; simp at ascii
  · next bytes => cases bytes; simp at ascii
  · exact zeros

/-- A text that begins in ASCII and holds no character zero reads back. -/
theorem read?_encodeChars {c : Char} {text : List Char} (ascii : c.toNat < 0x80)
    (nonzero : ∀ d ∈ c :: text, d.toNat ≠ 0) :
    read? (Utf8.encodeChars (c :: text)) = some (c :: text) := by
  have bytes : Utf8.encodeChars (c :: text) =
      UInt8.ofNat c.toNat :: Utf8.encodeChars text := by
    simp [Utf8.encodeChars, Utf8.encodeChar, ascii]
  have lead : (UInt8.ofNat c.toNat).toNat < 0x80 := by
    rw [Utf8.toNat_ofNat_of_lt (by omega)]
    exact ascii
  have detected : detect (Utf8.encodeChars (c :: text)) = .utf8 0 := by
    rw [bytes]
    refine detect_eq_utf8 lead ?_
    rw [← bytes]
    exact fun byte member => Utf8.ne_zero_of_mem_encodeChars nonzero member
  rw [read?, detected]
  exact Utf8.decodeWith?_encodeChars true (c :: text)

end Encoding

end Provisioning
