import Provisioning.Ethereum.Address
import Provisioning.Proofs.Text.Case

/-!
# Addresses and their text

A Keccak hash has 32 bytes, so the address of a public key has twenty. The checksum only
raises letters, which hexadecimal digits may be in either case: the text of an address
is read as the address (`Address.ofText?_text`), and so is every spelling of it that
differs in the case of letters (`Address.ofText?_congr`).
-/

namespace Provisioning

/-! ## The size of a hash -/

namespace Keccak

@[simp] theorem length_mixRow (row : List UInt64) : (mixRow row).length = row.length := by
  simp [mixRow, turned]
  omega

theorem length_flatMap_mixRow {count : Nat} {state : List UInt64}
    (sized : state.length = 5 * count) : ((rows count state).flatMap mixRow).length = 5 * count := by
  induction count generalizing state with
  | zero => rfl
  | succ count ih =>
    have rest : ((rows count (state.drop 5)).flatMap mixRow).length = 5 * count :=
      ih (by rw [List.length_drop]; omega)
    rw [rows, List.flatMap_cons, List.length_append, rest, length_mixRow, List.length_take]
    omega

theorem length_round (state : List UInt64) (constant : UInt64) :
    (round state constant).length = 25 := by
  have scattered : (scatter (diffuse state)).length = 5 * 5 := by simp [scatter, moves]
  rw [round, List.length_modifyHead, mix, length_flatMap_mixRow scattered]

theorem length_foldl_round {state : List UInt64} (sized : state.length = 25)
    (constants : List UInt64) : (constants.foldl round state).length = 25 := by
  induction constants generalizing state with
  | nil => exact sized
  | cons constant rest ih => exact ih (length_round state constant)

theorem length_lanes (count : Nat) (bytes : Bytes) : (lanes count bytes).length = count := by
  induction count generalizing bytes with
  | zero => rfl
  | succ count ih => rw [lanes, List.length_cons, ih]

theorem length_absorb {state : List UInt64} (sized : state.length = 25) (blocks : Nat)
    (bytes : Bytes) : (absorb blocks state bytes).length = 25 := by
  induction blocks generalizing state bytes with
  | zero => exact sized
  | succ blocks ih =>
    have blockSized : (lanes 17 (bytes.take 136)).length = 17 := length_lanes 17 _
    exact ih (length_foldl_round (by simp [sized, blockSized]) _) _

@[simp] theorem length_hash (message : Bytes) : (hash message).length = 32 := by
  have sized := length_absorb (List.length_replicate (n := 25) (a := 0))
    ((message ++ padding message.length).length / 136) (message ++ padding message.length)
  simp only [hash]
  generalize absorb _ _ _ = state at sized ⊢
  have four : (state.take 4).length = 4 := by simp [sized]
  generalize state.take 4 = lanes at four
  match lanes, four with
  | [a, b, c, d], _ => simp

end Keccak

/-! ## Digits of either case -/

namespace Hex

theorem length_encodeChars (bytes : Bytes) : (encodeChars bytes).length = 2 * bytes.length := by
  induction bytes with
  | nil => rfl
  | cons byte rest ih =>
    rw [encodeChars] at ih
    rw [encodeChars, List.flatMap_cons, List.length_append, ih, List.length_cons]
    simp only [List.length_cons, List.length_nil]
    omega

theorem value?_toUpper_digit {n : Nat} (small : n < 16) :
    value? (digit n).toUpper = some n := by
  have all : ∀ n ∈ List.range 16, value? (digit n).toUpper = some n := by decide
  exact all n (List.mem_range.mpr small)

/-- Digits of which some are raised are read as before. -/
theorem decodeStrict?_zipWith {raise : Char → Char → Char}
    (raises : ∀ c mark, raise c mark = c ∨ raise c mark = c.toUpper) {bytes : Bytes}
    {marks : List Char} (enough : 2 * bytes.length ≤ marks.length) :
    decodeStrict? (List.zipWith raise (encodeChars bytes) marks) = some bytes := by
  induction bytes generalizing marks with
  | nil => rfl
  | cons byte rest ih =>
    rw [List.length_cons] at enough
    match marks, enough with
    | first :: second :: marks, enough =>
      have bound : byte.toNat < 256 := byte.toNat_lt_size
      have high : byte.toNat / 16 < 16 := by omega
      have low : byte.toNat % 16 < 16 := by omega
      have value {n : Nat} (small : n < 16) (mark : Char) :
          value? (raise (digit n) mark) = some n := by
        rcases raises (digit n) mark with same | raised
        · rw [same, value?_digit small]
        · rw [raised, value?_toUpper_digit small]
      have others : decodeStrict? (List.zipWith raise (encodeChars rest) marks) = some rest :=
        ih (by simp only [List.length_cons] at enough; omega)
      have digits : encodeChars (byte :: rest) =
          digit (byte.toNat / 16) :: digit (byte.toNat % 16) :: encodeChars rest := rfl
      rw [digits, List.zipWith_cons_cons, List.zipWith_cons_cons, decodeStrict?, value high,
        value low, others]
      simp [Nat.div_add_mod]

end Hex

/-! ## Texts of addresses -/

namespace Address

theorem length_ofPublicKey (key : Bytes) : (ofPublicKey key).length = 20 := by
  simp [ofPublicKey]

/-- The text of an address is read as the address. -/
theorem ofText?_text {address : Bytes} (sized : address.length = 20) :
    ofText? (text address) = some address := by
  have digits : unmarked (text address).toList = checksumChars (Hex.encodeChars address) := by
    simp [text, unmarked]
  have raised : Hex.decodeStrict? (checksumChars (Hex.encodeChars address)) = some address := by
    refine Hex.decodeStrict?_zipWith (fun c mark => ?_) ?_
    · split
      · exact .inr rfl
      · exact .inl rfl
    · simp [Hex.length_encodeChars, sized]
  have length : (checksumChars (Hex.encodeChars address)).length = 40 := by
    simp [checksumChars, Hex.length_encodeChars, sized]
  rw [ofText?, digits, if_pos length, raised]

/-! ## Spellings of addresses -/

theorem toNat_toLower (c : Char) :
    c.toLower.toNat = if 65 ≤ c.toNat ∧ c.toNat ≤ 90 then c.toNat + 32 else c.toNat := by
  have isLetter : (c.val ≥ 'A'.val ∧ c.val ≤ 'Z'.val) ↔ 65 ≤ c.toNat ∧ c.toNat ≤ 90 := by
    rw [ge_iff_le, UInt32.le_iff_toNat_le, UInt32.le_iff_toNat_le]
    rfl
  unfold Char.toLower
  by_cases letter : 65 ≤ c.toNat ∧ c.toNat ≤ 90
  · rw [dif_pos (isLetter.mpr letter), if_pos letter]
    show (c.val + 32).toNat = c.val.toNat + 32
    have small : c.val.toNat ≤ 90 := letter.2
    rw [UInt32.toNat_add]
    exact Nat.mod_eq_of_lt (by simp only [UInt32.reduceToNat]; omega)
  · rw [dif_neg (mt isLetter.mp letter), if_neg letter]

theorem value?_toLower (c : Char) : Hex.value? c.toLower = Hex.value? c := by
  unfold Hex.value?
  simp only [toNat_toLower]
  split <;> grind

theorem decodeStrict?_map_toLower (digits : List Char) :
    Hex.decodeStrict? (digits.map Char.toLower) = Hex.decodeStrict? digits := by
  fun_induction Hex.decodeStrict? digits with
  | case1 => rfl
  | case2 => rfl
  | case3 c d rest high low tail isTail isHigh isLow ih =>
    simp [Hex.decodeStrict?, value?_toLower, isHigh, isLow, ih, isTail]
  | case4 c d rest unread ih =>
    simp [Hex.decodeStrict?, value?_toLower, ih]

/-- Digits are unmarked already if they do not begin with a mark. -/
theorem unmarked_of_not_mark {c d : Char} (bare : ¬(c = '0' ∧ (d = 'x' ∨ d = 'X')))
    (rest : List Char) : unmarked (c :: d :: rest) = c :: d :: rest := by
  unfold unmarked
  split <;> simp_all

/-- A mark is one in either case. -/
theorem toLower_mark {c d : Char} :
    (c.toLower = '0' ∧ (d.toLower = 'x' ∨ d.toLower = 'X')) ↔ (c = '0' ∧ (d = 'x' ∨ d = 'X')) := by
  have zero : '0'.toNat = 48 := rfl
  have small : 'x'.toNat = 120 := rfl
  have capital : 'X'.toNat = 88 := rfl
  simp only [← Char.toNat_inj, toNat_toLower, zero, small, capital]
  split <;> split <;> omega

theorem unmarked_map_toLower (text : List Char) :
    unmarked (text.map Char.toLower) = (unmarked text).map Char.toLower := by
  match text with
  | [] => rfl
  | [c] => simp [unmarked]
  | c :: d :: rest =>
    by_cases mark : c = '0' ∧ (d = 'x' ∨ d = 'X')
    · obtain ⟨rfl, rfl | rfl⟩ := mark
      · rfl
      · rfl
    · rw [unmarked_of_not_mark mark, List.map_cons, List.map_cons,
        unmarked_of_not_mark (mt toLower_mark.mp mark)]

theorem decodeStrict?_eq_none_of_mem {digits : List Char} {c : Char} (mem : c ∈ digits)
    (strange : Hex.value? c = none) : Hex.decodeStrict? digits = none := by
  fun_induction Hex.decodeStrict? digits with
  | case1 => cases mem
  | case2 => rfl
  | case3 first second rest high low tail isTail isLow isHigh ih =>
    rcases List.mem_cons.mp mem with rfl | mem
    · cases strange.symm.trans isHigh
    rcases List.mem_cons.mp mem with rfl | mem
    · cases strange.symm.trans isLow
    · cases (ih mem).symm.trans isTail
  | case4 => rfl

theorem mem_unmarked {text : List Char} {c : Char} (mem : c ∈ text)
    (unmark : c ≠ '0' ∧ c ≠ 'x' ∧ c ≠ 'X') : c ∈ unmarked text := by
  unfold unmarked
  split <;> simp_all

/-- A text with a character that is no digit and marks none is no address. -/
theorem ofText?_eq_none_of_mem {text : String} {c : Char} (mem : c ∈ text.toList)
    (strange : Hex.value? c = none) (unmark : c ≠ '0' ∧ c ≠ 'x' ∧ c ≠ 'X') :
    ofText? text = none := by
  unfold ofText?
  dsimp only
  rw [decodeStrict?_eq_none_of_mem (mem_unmarked mem unmark) strange, ite_self]

/-- What a character outside ASCII leaves in lower case has no place in an address. -/
theorem strange_of_isLeft {c : Char} (left : Text.IsLeft c) :
    Hex.value? c = none ∧ c ≠ '0' ∧ c ≠ 'x' ∧ c ≠ 'X' := by
  rcases left with wide | rfl
  · have other {d : Char} (small : d.toNat < 128) : c ≠ d := by
      rintro rfl
      omega
    refine ⟨?_, other (by decide), other (by decide), other (by decide)⟩
    unfold Hex.value?
    dsimp only
    rw [if_neg (by omega), if_neg (by omega), if_neg (by omega)]
  · decide

/-- Lower case makes no address of a text, and leaves none another one. -/
theorem ofText?_lower (text : String) : ofText? (Text.lower text) = ofText? text := by
  by_cases ascii : ∀ c ∈ text.toList, c.toNat < 128
  · rw [Text.lower_of_ascii ascii]
    simp only [ofText?, String.toList_ofList, unmarked_map_toLower, List.length_map,
      decodeStrict?_map_toLower]
  · obtain ⟨c, mem, wide⟩ : ∃ c ∈ text.toList, 128 ≤ c.toNat := by simpa using ascii
    obtain ⟨d, left, isLeft⟩ := Text.exists_mem_lowerFrom mem wide []
    have lowered : d ∈ (Text.lower text).toList := by
      rwa [Text.lower, String.toList_ofList]
    have wideLeft := strange_of_isLeft (.inl wide)
    have leftStrange := strange_of_isLeft isLeft
    rw [ofText?_eq_none_of_mem lowered leftStrange.1 leftStrange.2,
      ofText?_eq_none_of_mem mem wideLeft.1 wideLeft.2]

/-- Spellings of one text that differ in the case of letters are read as one address. -/
theorem ofText?_congr {text other : String} (same : Text.lower text = Text.lower other) :
    ofText? text = ofText? other := by
  rw [← ofText?_lower text, same, ofText?_lower]

end Address

end Provisioning
