import Provisioning.Bytes

/-!
# UTF-8

`Utf8.encode` writes a text. `Utf8.decode?` accepts exactly well-formed input,
and `Utf8.decodeLossy` puts one replacement character for each maximal
ill-formed part. Both read through `Utf8.step`, which takes one unit from the
front. Main statements: `Utf8.length_step_le` (an item uses up input) and
`Utf8.toChar_toNat`.
-/

namespace Provisioning.Utf8

def encodeChar (c : Char) : Bytes :=
  let n := c.toNat
  if n < 0x80 then [UInt8.ofNat n]
  else if n < 0x800 then [UInt8.ofNat (0xc0 + n / 64), UInt8.ofNat (0x80 + n % 64)]
  else if n < 0x10000 then
    [UInt8.ofNat (0xe0 + n / 4096), UInt8.ofNat (0x80 + n / 64 % 64),
      UInt8.ofNat (0x80 + n % 64)]
  else
    [UInt8.ofNat (0xf0 + n / 262144), UInt8.ofNat (0x80 + n / 4096 % 64),
      UInt8.ofNat (0x80 + n / 64 % 64), UInt8.ofNat (0x80 + n % 64)]

def encodeChars (text : List Char) : Bytes :=
  text.flatMap encodeChar

def encode (text : String) : Bytes :=
  encodeChars text.toList

/-- What the front of the input holds: a code point, or a maximal part that
begins no well-formed sequence. -/
inductive Item where
  | code (n : Nat)
  | ill

/-- The character U+FFFD. -/
def replacement : Char := Char.ofNat 0xfffd

/-- A code point as a character; surrogates have none and are replaced. -/
def toChar (n : Nat) : Char :=
  if h : n.isValidChar then Char.ofNatAux n h else replacement

/-- A continuation byte between two bounds. -/
def within (low high : Nat) (byte : UInt8) : Bool :=
  low ≤ byte.toNat && byte.toNat ≤ high

/-- Takes one item whose first byte is `lead`. With `surrogates`, the three-byte
forms of surrogate code points count as well-formed. -/
def step (surrogates : Bool) (lead : UInt8) (rest : Bytes) : Item × Bytes :=
  let n := lead.toNat
  if n < 0x80 then (.code n, rest)
  else if n < 0xc2 then (.ill, rest)
  else if n < 0xe0 then
    match rest with
    | b :: tail =>
      if within 0x80 0xbf b then (.code ((n - 0xc0) * 64 + (b.toNat - 0x80)), tail)
      else (.ill, rest)
    | [] => (.ill, rest)
  else if n < 0xf0 then
    let low := if n = 0xe0 then 0xa0 else 0x80
    let high := if n = 0xed ∧ surrogates = false then 0x9f else 0xbf
    match rest with
    | b :: tail =>
      if within low high b then
        match tail with
        | c :: tail' =>
          if within 0x80 0xbf c then
            (.code ((n - 0xe0) * 4096 + (b.toNat - 0x80) * 64 + (c.toNat - 0x80)), tail')
          else (.ill, tail)
        | [] => (.ill, tail)
      else (.ill, rest)
    | [] => (.ill, rest)
  else if n < 0xf5 then
    let low := if n = 0xf0 then 0x90 else 0x80
    let high := if n = 0xf4 then 0x8f else 0xbf
    match rest with
    | b :: tail =>
      if within low high b then
        match tail with
        | c :: tail' =>
          if within 0x80 0xbf c then
            match tail' with
            | d :: tail'' =>
              if within 0x80 0xbf d then
                (.code ((n - 0xf0) * 262144 + (b.toNat - 0x80) * 4096 +
                  (c.toNat - 0x80) * 64 + (d.toNat - 0x80)), tail'')
              else (.ill, tail')
            | [] => (.ill, tail')
          else (.ill, tail)
        | [] => (.ill, tail)
      else (.ill, rest)
    | [] => (.ill, rest)
  else (.ill, rest)

/-- An item never gives bytes back. -/
theorem length_step_le (surrogates : Bool) (lead : UInt8) (rest : Bytes) :
    (step surrogates lead rest).2.length ≤ rest.length := by
  unfold step
  simp only
  repeat' split
  all_goals (simp only [List.length_cons]; omega)

/-- Reads well-formed input; anything else is refused. -/
def decodeWith? (surrogates : Bool) : Bytes → Option (List Char)
  | [] => some []
  | lead :: rest =>
    have _shorter := length_step_le surrogates lead rest
    match _taken : step surrogates lead rest with
    | (.code n, tail) => (decodeWith? surrogates tail).map (toChar n :: ·)
    | (.ill, _) => none
termination_by bytes => bytes.length
decreasing_by
  rw [_taken] at _shorter
  exact Nat.lt_succ_of_le _shorter

def decode? (bytes : Bytes) : Option (List Char) :=
  decodeWith? false bytes

/-- Reads any input; each maximal ill-formed part becomes one replacement
character. -/
def decodeLossyChars : Bytes → List Char
  | [] => []
  | lead :: rest =>
    have _shorter := length_step_le false lead rest
    match _taken : step false lead rest with
    | (.code n, tail) => toChar n :: decodeLossyChars tail
    | (.ill, tail) => replacement :: decodeLossyChars tail
termination_by bytes => bytes.length
decreasing_by
  all_goals
    rw [_taken] at _shorter
    exact Nat.lt_succ_of_le _shorter

def decodeLossy (bytes : Bytes) : String :=
  String.ofList (decodeLossyChars bytes)

/-- Reads any input; each byte of an ill-formed part is shown by its number. -/
def decodeMarkedChars (mark : UInt8 → List Char) : Bytes → List Char
  | [] => []
  | lead :: rest =>
    have _shorter := length_step_le false lead rest
    match _taken : step false lead rest with
    | (.code n, tail) => toChar n :: decodeMarkedChars mark tail
    | (.ill, tail) =>
      ((lead :: rest).take (rest.length + 1 - tail.length)).flatMap mark ++
        decodeMarkedChars mark tail
termination_by bytes => bytes.length
decreasing_by
  all_goals
    rw [_taken] at _shorter
    exact Nat.lt_succ_of_le _shorter

theorem toChar_toNat (c : Char) : toChar c.toNat = c := by
  have valid : c.toNat.isValidChar := c.valid
  rw [toChar, dif_pos valid]
  exact Char.ext (UInt32.toNat_inj.mp rfl)

end Provisioning.Utf8
