import Provisioning.Bytes

/-!
# Base64 text of bytes

`Base64.encode` writes the standard alphabet with padding. `Base64.decode?` is
lenient: characters outside the alphabet are passed over, and padding that
completes a group ends the reading. What remains unfinished is refused.
-/

namespace Provisioning.Base64

/-- The character of a six-bit value. -/
def digit (n : Nat) : Char :=
  if n < 26 then Char.ofNat (65 + n)
  else if n < 52 then Char.ofNat (71 + n)
  else if n < 62 then Char.ofNat (n - 4)
  else if n = 62 then '+'
  else '/'

/-- The six-bit value of a character of the alphabet. -/
def value? (c : Char) : Option Nat :=
  let n := c.toNat
  if 65 ≤ n ∧ n ≤ 90 then some (n - 65)
  else if 97 ≤ n ∧ n ≤ 122 then some (n - 71)
  else if 48 ≤ n ∧ n ≤ 57 then some (n + 4)
  else if c = '+' then some 62
  else if c = '/' then some 63
  else none

/-- Groups of three bytes become four characters; a short last group is padded. -/
def encodeChars : Bytes → List Char
  | [] => []
  | [a] =>
    let n := a.toNat
    [digit (n / 4), digit (n % 4 * 16), '=', '=']
  | [a, b] =>
    let n := a.toNat
    let m := b.toNat
    [digit (n / 4), digit (n % 4 * 16 + m / 16), digit (m % 16 * 4), '=']
  | a :: b :: c :: rest =>
    let n := a.toNat
    let m := b.toNat
    let k := c.toNat
    digit (n / 4) :: digit (n % 4 * 16 + m / 16) :: digit (m % 16 * 4 + k / 64) ::
      digit (k % 64) :: encodeChars rest

def encode (bytes : Bytes) : String :=
  String.ofList (encodeChars bytes)

/-- Where the reader stands in a group of four characters, with the bits that
still wait for their byte. -/
inductive Position where
  | first
  | second (bits : Nat)
  | third (bits : Nat)
  | fourth (bits : Nat)

/-- Reads on from a position; `pads` counts the padding seen since the last
character of the alphabet. -/
def decodeFrom : Position → (pads : Nat) → List Char → Option Bytes
  | .first, _, [] => some []
  | _, _, [] => none
  | at_, pads, c :: rest =>
    if c = '=' then
      match at_ with
      | .first => decodeFrom .first pads rest
      | .second bits => decodeFrom (.second bits) pads rest
      | .third bits => if pads = 0 then decodeFrom (.third bits) 1 rest else some []
      | .fourth _ => some []
    else
      match value? c with
      | none => decodeFrom at_ pads rest
      | some v =>
        match at_ with
        | .first => decodeFrom (.second v) 0 rest
        | .second bits =>
          (decodeFrom (.third (v % 16)) 0 rest).map (UInt8.ofNat (bits * 4 + v / 16) :: ·)
        | .third bits =>
          (decodeFrom (.fourth (v % 4)) 0 rest).map (UInt8.ofNat (bits * 16 + v / 4) :: ·)
        | .fourth bits =>
          (decodeFrom .first 0 rest).map (UInt8.ofNat (bits * 64 + v) :: ·)

/-- Reads a whole text; the text is taken to be ASCII. -/
def decode? (text : List Char) : Option Bytes :=
  decodeFrom .first 0 text

end Provisioning.Base64
