import Provisioning.Arg
import Provisioning.Ethereum.Address

/-!
# ABI encoding

Values of contract types as words of 32 bytes. A tuple is written as a head, with
one word for each static member and an offset for each dynamic one, and a tail.
Encoding checks each value against its type. Decoding checks that every offset
points behind the head and inside the data, that the data suffice, and that all
padding is zero.
-/

namespace Provisioning.Abi

inductive Kind where
  | uint (bits : Nat)
  | int (bits : Nat)
  | address
  | bool
  | fixedBytes (size : Nat)
  | bytes
  | string
  | tuple (members : List Kind)

mutual

/-- Whether values of the type have no fixed length. -/
def Kind.isDynamic : Kind → Bool
  | .bytes | .string => true
  | .tuple members => anyDynamic members
  | _ => false

def anyDynamic : List Kind → Bool
  | [] => false
  | kind :: rest => kind.isDynamic || anyDynamic rest

end

mutual

/-- The number of bytes that a value takes in a head. -/
def Kind.headSize : Kind → Nat
  | .tuple members => if anyDynamic members then 32 else headSizes members
  | _ => 32

def headSizes : List Kind → Nat
  | [] => 0
  | kind :: rest => kind.headSize + headSizes rest

end

mutual

/-- The name of the type, as signatures spell it. -/
def Kind.name : Kind → String
  | .uint bits => s!"uint{bits}"
  | .int bits => s!"int{bits}"
  | .address => "address"
  | .bool => "bool"
  | .fixedBytes size => s!"bytes{size}"
  | .bytes => "bytes"
  | .string => "string"
  | .tuple members => "(" ++ names members ++ ")"

def names : List Kind → String
  | [] => ""
  | [kind] => kind.name
  | kind :: next :: rest => kind.name ++ "," ++ names (next :: rest)

end

/-- A word holding a natural. -/
def word (n : Nat) : Bytes := Bytes.bigEndian 32 n

/-- Bytes followed by zeros up to a whole number of words. -/
def padded (bytes : Bytes) : Bytes :=
  Bytes.padRight ((bytes.length + 31) / 32 * 32) bytes

/-! ## Encoding -/

/-- The address that an argument stands for. -/
def addressOf? : Arg → Option Bytes
  | .str text => Address.ofText? text
  | .bytes bytes => if bytes.length = 20 then some bytes else none
  | _ => none

/-- Bytes with their length in front. -/
def counted (bytes : Bytes) : Bytes :=
  word bytes.length ++ padded bytes

mutual

/-- The words of a value: the head part of a static type, the tail part of a
dynamic one. -/
def encodeValue : Kind → Arg → Except AbiFault Bytes
  | .uint bits, .int n =>
    if 0 ≤ n ∧ n < 2 ^ bits then .ok (word n.toNat) else .error .bounds
  | .int bits, .int n =>
    if -(2 ^ (bits - 1)) ≤ n ∧ n < 2 ^ (bits - 1) then .ok (word (n % 2 ^ 256).toNat)
    else .error .bounds
  | .address, value =>
    match addressOf? value with
    | some address => .ok (List.replicate 12 0 ++ address)
    | none => .error .kind
  | .bool, .bool b => .ok (word (if b then 1 else 0))
  | .fixedBytes size, .bytes bytes =>
    if bytes.length ≤ size then .ok (Bytes.padRight 32 bytes) else .error .bounds
  | .bytes, .bytes bytes => .ok (counted bytes)
  | .string, .str text => .ok (counted (Utf8.encode text))
  | .tuple members, .list values =>
    (encodeParts members values (headSizes members)).map fun (head, tail) => head ++ tail
  | _, _ => .error .kind

/-- Head and tail of the members, where the tail starts at `offset`. -/
def encodeParts : (members : List Kind) → List Arg → (offset : Nat) →
    Except AbiFault (Bytes × Bytes)
  | [], [], _ => .ok ([], [])
  | kind :: rest, value :: values, offset =>
    match encodeValue kind value with
    | .error fault => .error fault
    | .ok part =>
      if kind.isDynamic then
        match encodeParts rest values (offset + part.length) with
        | .error fault => .error fault
        | .ok (head, tail) => .ok (word offset ++ head, part ++ tail)
      else
        match encodeParts rest values offset with
        | .error fault => .error fault
        | .ok (head, tail) => .ok (part ++ head, tail)
  | _, _, _ => .error .kind

end

/-! ## Decoding -/

/-- The word at a place of the data. -/
def wordAt (data : Bytes) (place : Nat) : Except AbiFault Bytes :=
  let bytes := (data.drop place).take 32
  if bytes.length < 32 then .error .shortData else .ok bytes

/-- The natural in the word at a place. -/
def natAt (data : Bytes) (place : Nat) : Except AbiFault Nat :=
  (wordAt data place).map Bytes.toNat

/-- A word whose first bytes are zero; the rest. -/
def lowBytes (size : Nat) (bytes : Bytes) : Except AbiFault Bytes :=
  if (bytes.take (32 - size)).all (· == 0) then .ok (bytes.drop (32 - size))
  else .error .padding

/-- Bytes with their length in front, at a place. -/
def countedAt (data : Bytes) (place : Nat) : Except AbiFault Bytes := do
  let size ← natAt data place
  let whole := (size + 31) / 32 * 32
  let bytes := (data.drop (place + 32)).take whole
  if bytes.length < whole then throw .shortData
  if (bytes.drop size).any (· != 0) then throw .padding
  return bytes.take size

/-- Whether the bytes of a negative number of fewer bits are filled with ones. -/
def signedOf (bits : Nat) (bytes : Bytes) : Except AbiFault Int :=
  let n := Bytes.toNat bytes
  if n < 2 ^ (bits - 1) then .ok n
  else if 2 ^ 256 - 2 ^ (bits - 1) ≤ n then .ok ((n : Int) - 2 ^ 256)
  else .error .padding

mutual

/-- Checks the offsets of a tuple that starts at `base` and whose head goes up to
`headEnd`; static members must decode. -/
def checkMembers (data : Bytes) (base headEnd : Nat) :
    (members : List Kind) → (place : Nat) → Except AbiFault Unit
  | [], _ => .ok ()
  | kind :: rest, place =>
    if kind.isDynamic then do
      let target := base + (← natAt data place)
      if target < headEnd ∨ data.length ≤ target then throw .pointer
      checkMembers data base headEnd rest (place + 32)
    else do
      let _ ← decodeAt data kind place
      checkMembers data base headEnd rest (place + kind.headSize)

/-- The value of a type at a place. -/
def decodeAt (data : Bytes) : (kind : Kind) → (place : Nat) → Except AbiFault Arg
  | .uint bits, place => do
    let bytes ← lowBytes (bits / 8) (← wordAt data place)
    return .int (Bytes.toNat bytes)
  | .int bits, place => do return .int (← signedOf bits (← wordAt data place))
  | .address, place => do
    let bytes ← lowBytes 20 (← wordAt data place)
    return .str (Address.text bytes)
  | .bool, place => do
    let bytes ← lowBytes 1 (← wordAt data place)
    return .bool (bytes != [0])
  | .fixedBytes size, place => do
    let bytes ← wordAt data place
    if (bytes.drop size).any (· != 0) then throw .padding
    return .bytes (bytes.take size)
  | .bytes, place => do return .bytes (← countedAt data place)
  | .string, place => do return .str (Utf8.decodeLossy (← countedAt data place))
  | .tuple members, place => do
    checkMembers data place (place + 32 * members.length) members place
    return .list (← decodeMembers data place members place)

/-- The members of a tuple that starts at `base`, from a place in its head on. -/
def decodeMembers (data : Bytes) (base : Nat) :
    (members : List Kind) → (place : Nat) → Except AbiFault (List Arg)
  | [], _ => .ok []
  | kind :: rest, place =>
    if kind.isDynamic then do
      let value ← decodeAt data kind (base + (← natAt data place))
      return value :: (← decodeMembers data base rest (place + 32))
    else do
      let value ← decodeAt data kind place
      return value :: (← decodeMembers data base rest (place + kind.headSize))

end

/-- The values of the given types, which fill the data from its start. -/
def decode (members : List Kind) (data : Bytes) : Except AbiFault (List Arg) := do
  checkMembers data 0 (32 * members.length) members 0
  decodeMembers data 0 members 0

/-- The values as one tuple. -/
def encode (members : List Kind) (values : List Arg) : Except AbiFault Bytes :=
  encodeValue (.tuple members) (.list values)

/-- The first four bytes of the hash of a signature. -/
def selector (function : String) (members : List Kind) : Bytes :=
  (Keccak.hash (Utf8.encode (function ++ (Kind.tuple members).name))).take 4

end Provisioning.Abi
