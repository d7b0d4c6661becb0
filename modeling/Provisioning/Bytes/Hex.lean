import Provisioning.Bytes

/-!
# Hexadecimal text of bytes

`Hex.encode` writes two lowercase digits a byte. `Hex.decode` reads digits of
either case, lets ASCII blanks stand between bytes but not inside one, and
otherwise reports where reading stopped. Main statement: `Hex.decode_encode`.
-/

namespace Provisioning.Hex

/-- The digit of a value below sixteen, in lower case. -/
def digit (n : Nat) : Char :=
  if n < 10 then Char.ofNat (48 + n) else Char.ofNat (87 + n)

/-- The value of a digit of either case. -/
def value? (c : Char) : Option Nat :=
  let n := c.toNat
  if 48 ≤ n ∧ n ≤ 57 then some (n - 48)
  else if 97 ≤ n ∧ n ≤ 102 then some (n - 87)
  else if 65 ≤ n ∧ n ≤ 70 then some (n - 55)
  else none

def encodeChars (bytes : Bytes) : List Char :=
  bytes.flatMap fun byte => [digit (byte.toNat / 16), digit (byte.toNat % 16)]

/-- Two lowercase digits for each byte. -/
def encode (bytes : Bytes) : String :=
  String.ofList (encodeChars bytes)

/-- The digits behind the `0x` mark. -/
def marked (bytes : Bytes) : String :=
  "0x" ++ encode bytes

/-- ASCII blanks, which may separate bytes. -/
def isBlank (c : Char) : Bool :=
  c == ' ' || (9 ≤ c.toNat && c.toNat ≤ 13)

/-- Reads bytes from `position` on; an error is the position of the first
character that cannot be read. -/
def decodeFrom (position : Nat) : List Char → Except Nat Bytes
  | [] => .ok []
  | c :: rest =>
    if isBlank c then decodeFrom (position + 1) rest
    else
      match value? c with
      | none => .error position
      | some high =>
        match rest with
        | [] => .error (position + 1)
        | d :: tail =>
          match value? d with
          | none => .error (position + 1)
          | some low =>
            (decodeFrom (position + 2) tail).map (UInt8.ofNat (16 * high + low) :: ·)

/-- Reads a whole text. A text with a character outside ASCII fails at the first
such character, whatever stands before it. -/
def decode (text : List Char) : Except Nat Bytes :=
  match text.findIdx? (fun c => 128 ≤ c.toNat) with
  | some position => .error position
  | none => decodeFrom 0 text

/-- Strict digits only: no blanks, an odd count refused. -/
def decodeStrict? : List Char → Option Bytes
  | [] => some []
  | [_] => none
  | c :: d :: rest =>
    match value? c, value? d, decodeStrict? rest with
    | some high, some low, some tail => some (UInt8.ofNat (16 * high + low) :: tail)
    | _, _, _ => none

/-- Digits with an optional `0x` or `0X` mark; an odd count gets a leading zero. -/
def decodePadded? (text : List Char) : Option Bytes :=
  let digits :=
    match text with
    | '0' :: 'x' :: rest => rest
    | '0' :: 'X' :: rest => rest
    | _ => text
  decodeStrict? (if digits.length % 2 = 1 then '0' :: digits else digits)

theorem value?_digit {n : Nat} (small : n < 16) : value? (digit n) = some n := by
  have all : ∀ n ∈ List.range 16, value? (digit n) = some n := by decide
  exact all n (List.mem_range.mpr small)

theorem isBlank_digit {n : Nat} (small : n < 16) : isBlank (digit n) = false := by
  have all : ∀ n ∈ List.range 16, isBlank (digit n) = false := by decide
  exact all n (List.mem_range.mpr small)

theorem digit_toNat_lt {n : Nat} (small : n < 16) : (digit n).toNat < 128 := by
  have all : ∀ n ∈ List.range 16, (digit n).toNat < 128 := by decide
  exact all n (List.mem_range.mpr small)

theorem decodeFrom_encodeChars (bytes : Bytes) (position : Nat) :
    decodeFrom position (encodeChars bytes) = .ok bytes := by
  induction bytes generalizing position with
  | nil => simp [encodeChars, decodeFrom]
  | cons byte rest ih =>
    have bound : byte.toNat < 256 := byte.toNat_lt_size
    have high : byte.toNat / 16 < 16 := by omega
    have low : byte.toNat % 16 < 16 := by omega
    have tail := ih (position + 2)
    simp only [encodeChars] at tail
    simp [encodeChars, decodeFrom, isBlank_digit high, value?_digit high,
      value?_digit low, tail, Except.map, Nat.div_add_mod]

/-- Written digits read back as the bytes they were written from. -/
theorem decode_encode (bytes : Bytes) : decode (encode bytes).toList = .ok bytes := by
  have ascii : (encodeChars bytes).findIdx? (fun c => 128 ≤ c.toNat) = none := by
    rw [List.findIdx?_eq_none_iff]
    intro c member
    simp only [encodeChars, List.mem_flatMap, List.mem_cons, List.not_mem_nil,
      or_false] at member
    obtain ⟨byte, _, rfl | rfl⟩ := member
    · have bound : byte.toNat < 256 := byte.toNat_lt_size
      have := digit_toNat_lt (n := byte.toNat / 16) (by omega)
      simp; omega
    · have := digit_toNat_lt (n := byte.toNat % 16) (by omega)
      simp; omega
  simp [decode, encode, ascii, decodeFrom_encodeChars]

end Provisioning.Hex
