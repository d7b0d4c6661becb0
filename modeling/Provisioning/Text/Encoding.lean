import Provisioning.Text.Utf8

/-!
# The encoding of a document

A document arrives as bytes in UTF-8, UTF-16 or UTF-32, of either byte order.
`Encoding.detect` tells them apart by a byte order mark or, without one, by which
of the first bytes are zero: a document starts with an ASCII character.
`Encoding.read?` then gives its characters, the mark left out.
-/

namespace Provisioning

inductive ByteOrder where
  | big
  | little

/-- An encoding, with the number of bytes its mark takes at the front. -/
inductive Encoding where
  | utf8 (mark : Nat)
  | utf16 (order : ByteOrder) (mark : Nat)
  | utf32 (order : ByteOrder) (mark : Nat)

namespace Encoding

/-- The encoding told by the zero bytes of a document without a mark. -/
def ofZeros (bytes : Bytes) : Encoding :=
  match bytes with
  | a :: b :: c :: d :: _ =>
    if a = 0 then if b = 0 then .utf32 .big 0 else .utf16 .big 0
    else if b = 0 then
      if c = 0 ∧ d = 0 then .utf32 .little 0 else .utf16 .little 0
    else .utf8 0
  | [a, b] =>
    if a = 0 then .utf16 .big 0 else if b = 0 then .utf16 .little 0 else .utf8 0
  | _ => .utf8 0

def detect (bytes : Bytes) : Encoding :=
  match bytes with
  | 0x00 :: 0x00 :: 0xfe :: 0xff :: _ => .utf32 .big 4
  | 0xff :: 0xfe :: 0x00 :: 0x00 :: _ => .utf32 .little 4
  | 0xfe :: 0xff :: _ => .utf16 .big 2
  | 0xff :: 0xfe :: _ => .utf16 .little 2
  | 0xef :: 0xbb :: 0xbf :: _ => .utf8 3
  | _ => ofZeros bytes

def ByteOrder.pair : ByteOrder → UInt8 → UInt8 → Nat
  | .big, a, b => 256 * a.toNat + b.toNat
  | .little, a, b => 256 * b.toNat + a.toNat

/-- The sixteen-bit units of a byte string of even length. -/
def units16? (order : ByteOrder) : Bytes → Option (List Nat)
  | [] => some []
  | [_] => none
  | a :: b :: rest => (units16? order rest).map (ByteOrder.pair order a b :: ·)

/-- The thirty-two-bit units of a byte string whose length is a multiple of four. -/
def units32? (order : ByteOrder) : Bytes → Option (List Nat)
  | [] => some []
  | a :: b :: c :: d :: rest =>
    let n :=
      match order with
      | .big => 65536 * ByteOrder.pair .big a b + ByteOrder.pair .big c d
      | .little => ByteOrder.pair .little a b + 65536 * ByteOrder.pair .little c d
    (units32? order rest).map (n :: ·)
  | _ => none

/-- Joins a high and a low surrogate; other units stand for themselves. -/
def ofUnits16 : List Nat → List Char
  | [] => []
  | [u] => [Utf8.toChar u]
  | u :: v :: rest =>
    if 0xd800 ≤ u ∧ u < 0xdc00 ∧ 0xdc00 ≤ v ∧ v < 0xe000 then
      Utf8.toChar (0x10000 + (u - 0xd800) * 1024 + (v - 0xdc00)) :: ofUnits16 rest
    else Utf8.toChar u :: ofUnits16 (v :: rest)

/-- The characters of a document; none if its bytes are not of its encoding. -/
def read? (bytes : Bytes) : Option (List Char) :=
  match detect bytes with
  | .utf8 mark => Utf8.decodeWith? true (bytes.drop mark)
  | .utf16 order mark => (units16? order (bytes.drop mark)).map ofUnits16
  | .utf32 order mark =>
    match units32? order (bytes.drop mark) with
    | some units =>
      if units.all (· < 0x110000) then some (units.map Utf8.toChar) else none
    | none => none

end Encoding

end Provisioning
