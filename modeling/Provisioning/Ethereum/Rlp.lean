import Provisioning.Bytes

/-!
# Recursive length encoding

Byte strings and lists of them, nested, as one byte string. Each item is led by a
mark that tells its kind and its length; a single byte below 128 stands for itself.
-/

namespace Provisioning

inductive Rlp where
  | bytes (content : Bytes)
  | list (items : List Rlp)

namespace Rlp

/-- A natural without leading zeros; zero is the empty string. -/
def natural (n : Nat) : Rlp := .bytes (Bytes.minimal n)

/-- The mark of a content of the given size: up to 55 in one byte, else the number
of bytes that write the size, and these. -/
def mark (kind size : Nat) : Bytes :=
  if size < 56 then [UInt8.ofNat (kind + size)]
  else
    let written := Bytes.minimal size
    UInt8.ofNat (kind + 55 + written.length) :: written

/-- A byte string with its mark. -/
def encodeBytes (content : Bytes) : Bytes :=
  match content with
  | [byte] => if byte < 128 then [byte] else [0x81, byte]
  | _ => mark 0x80 content.length ++ content

mutual

def encode : Rlp → Bytes
  | .bytes content => encodeBytes content
  | .list items =>
    let body := encodeItems items
    mark 0xc0 body.length ++ body

def encodeItems : List Rlp → Bytes
  | [] => []
  | item :: rest => encode item ++ encodeItems rest

end

end Rlp

end Provisioning
