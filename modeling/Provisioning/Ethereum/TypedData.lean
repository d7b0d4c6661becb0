import Provisioning.Ethereum.Abi

/-!
# Typed data

Claims are structured values with a domain that says where they hold (EIP-712). The
digest that is signed hashes the domain and the value, each together with the text
of its type, so that values of different types or for different domains differ.
The first type that no other type refers to is the type of the whole value.
-/

namespace Provisioning.TypedData

/-- A member of a structured type. -/
structure Member where
  name : String
  type : String

/-- Structured types by name. -/
abbrev Types := List (String × List Member)

/-- Where a claim holds. -/
structure Domain where
  name : Arg
  version : Arg
  chainId : Arg
  verifyingContract : Arg

def findType? (name : String) : Types → Option (List Member)
  | [] => none
  | (k, members) :: rest => if k = name then some members else findType? name rest

/-- The types that a document describes: the members of each, by its name. -/
def Types.ofDocument (document : Json) : Types :=
  let text (value : Json) (key : String) : String := ((value.get? key).map Json.text).getD ""
  match document with
  | .obj types => types.map fun (name, members) =>
    match members with
    | .arr members => (name, members.map fun m => ⟨text m "name", text m "type"⟩)
    | _ => (name, [])
  | _ => []

/-! ## Names of types -/

def isArray (type : String) : Bool :=
  type.toList.getLast? == some ']'

/-- The type of the items of a list type: the last brackets are dropped. -/
def itemType (type : String) : String :=
  String.ofList (((type.toList.reverse.dropWhile (· != '[')).drop 1).reverse)

/-- A type without any brackets. -/
def coreType (type : String) : String :=
  String.ofList (type.toList.takeWhile (· != '['))

/-- The decimal number that a text is. -/
def number? (text : List Char) : Option Nat :=
  if text ≠ [] ∧ text.all Numeral.isDigit ∧ text.head? ≠ some '0' then
    some (Numeral.ofDigits text)
  else none

/-- A width in bits that integers may have. -/
def width? (text : List Char) : Option Nat :=
  match text with
  | [] => some 256
  | _ =>
    (number? text).bind fun bits =>
      if 8 ≤ bits ∧ bits ≤ 256 ∧ bits % 8 = 0 then some bits else none

/-- An elementary type of one word, by its name. -/
def wordKind? (type : String) : Option Abi.Kind :=
  match type.toList with
  | 'u' :: 'i' :: 'n' :: 't' :: rest => (width? rest).map .uint
  | 'i' :: 'n' :: 't' :: rest => (width? rest).map .int
  | 'b' :: 'y' :: 't' :: 'e' :: 's' :: rest =>
    (number? rest).bind fun size => if 1 ≤ size ∧ size ≤ 32 then some (.fixedBytes size) else none
  | _ => if type = "address" then some .address else if type = "bool" then some .bool else none

/-- The types that a type refers to, itself among them, in no order; `steps` bounds
the length of a chain of references. -/
def reached (types : Types) : (steps : Nat) → (found : List String) → String → List String
  | 0, found, _ => found
  | steps + 1, found, type =>
    let core := coreType type
    if found.contains core then found
    else
      match findType? core types with
      | none => found
      | some members =>
        members.foldl (fun found member => reached types steps found member.type)
          (core :: found)

/-- The text of one structured type. -/
def memberList (name : String) (members : List Member) : String :=
  let parts := members.map fun member => member.type ++ " " ++ member.name
  name ++ "(" ++ String.intercalate "," parts ++ ")"

/-- The text of a type: its own members, then those of the types it refers to in
the order of their names. -/
def typeText (types : Types) (type : String) : String :=
  let found := (reached types (types.length + 1) [] type).filter (· != type)
  let sorted := found.mergeSort fun a b => decide (a ≤ b)
  String.join ((type :: sorted).map fun name =>
    memberList name ((findType? name types).getD []))

def typeHash (types : Types) (type : String) : Bytes :=
  Keccak.hash (Utf8.encode (typeText types type))

/-- The type that no other type refers to, if it is the only one. -/
def primaryType? (types : Types) : Option String :=
  let referred := types.flatMap fun (name, members) =>
    (members.map fun member => coreType member.type).filter (· != name)
  match types.filter fun (name, _) => !referred.contains name with
  | [(name, _)] => some name
  | _ => none

/-! ## Values -/

def isHexChar (c : Char) : Bool := (Hex.value? c).isSome

/-- Digits behind `0x` or `0X`, if the text is of that form. -/
def markedDigits? (text : String) : Option (List Char) :=
  match text.toList with
  | '0' :: mark :: rest =>
    if (mark = 'x' ∨ mark = 'X') ∧ rest.all isHexChar then some rest else none
  | _ => none

/-- The number that marked digits write. -/
def ofHexDigits (digits : List Char) : Nat :=
  digits.foldl (fun n c => 16 * n + (Hex.value? c).getD 0) 0

/-- A natural as the fewest bytes, but at least one. -/
def naturalBytes (n : Nat) : Bytes :=
  if n = 0 then [0] else Bytes.minimal n

/-- The bytes that a value stands for where bytes are due: marked hexadecimal text,
other text in UTF-8, a natural, bytes. -/
def bytesOf : Arg → Except Fault Bytes
  | .bytes bytes => .ok bytes
  | .str text =>
    match markedDigits? text with
    | some digits => .ok ((Hex.decodePadded? digits).getD [])
    | none => .ok (Utf8.encode text)
  | .bool b => .ok [if b then 1 else 0]
  | .int n => if n < 0 then .error (.abi .claim) else .ok (naturalBytes n.toNat)
  | _ => .error (.kind "expected a bool, int, byte or bytearray")

/-- The bytes that a value stands for where text is due. -/
def textBytesOf : Arg → Except Fault Bytes
  | .str text => .ok (Utf8.encode text)
  | .bool b => .ok [if b then 1 else 0]
  | .int n => if n < 0 then .error (.abi .claim) else .ok (naturalBytes n.toNat)
  | other => .error (.operation s!"'{other.kindName}' object has no attribute 'encode'")

/-- The integer that a text writes, in decimal or with a mark. -/
def integerOf (text : String) : Except Fault Int :=
  match markedDigits? text with
  | some [] => .error (.abi .claim)
  | some digits => .ok (ofHexDigits digits)
  | none =>
    match Numeral.int? text.toList with
    | some n => .ok n
    | none => .error (.abi .claim)

/-- Whether a value counts as given. -/
def truthy : Arg → Bool
  | .null => false
  | .bool b => b
  | .int n => n ≠ 0
  | .float x => !x.isZero
  | .str s => s ≠ ""
  | .bytes b => !b.isEmpty
  | .list items => !items.isEmpty
  | .record fields => !fields.isEmpty

def encodeWord (kind : Abi.Kind) (value : Arg) : Except Fault Bytes :=
  match Abi.encodeValue kind value with
  | .ok bytes => .ok bytes
  | .error fault => .error (.abi fault)

/-- The word of a value whose type is elementary. -/
def encodeElementary (type : String) (value : Arg) : Except Fault Bytes :=
  if type = "bytes" then (bytesOf value).map Keccak.hash
  else if type = "string" then (textBytesOf value).map Keccak.hash
  else
    match wordKind? type with
    | none => .error (.abi .claim)
    | some .bool => .ok (Abi.word (if truthy value then 1 else 0))
    | some (.fixedBytes size) => do encodeWord (.fixedBytes size) (.bytes (← bytesOf value))
    | some kind =>
      match kind, value with
      | .uint _, .str text | .int _, .str text => do
        encodeWord kind (.int (← integerOf text))
      | _, _ => encodeWord kind value

mutual

/-- The depth of nesting in a value. -/
def depth : Arg → Nat
  | .list items => depths items + 1
  | .record fields => fieldDepths fields + 1
  | _ => 0

def depths : List Arg → Nat
  | [] => 0
  | item :: rest => max (depth item) (depths rest)

def fieldDepths : List (String × Arg) → Nat
  | [] => 0
  | (_, value) :: rest => max (depth value) (fieldDepths rest)

end

mutual

/-- The word of a member. Structured values and lists are hashed; a missing value
is zero where it has no fixed length, and refused elsewhere. `steps` bounds the
nesting. -/
def encodeMember (types : Types) : (steps : Nat) → (type : String) → Arg → Except Fault Bytes
  | 0, _, _ => .error (.abi .claim)
  | steps + 1, type, value =>
    match findType? type types with
    | some members =>
      match value with
      | .null => .ok (List.replicate 32 0)
      | .record fields => (encodeStruct types steps type members fields).map Keccak.hash
      | other => .error (.operation s!"'{other.kindName}' object has no attribute 'get'")
    | none =>
      match value with
      | .null =>
        if type = "string" ∨ type = "bytes" then .ok (List.replicate 32 0)
        else .error (.abi .claim)
      | _ =>
        if isArray type then
          match value with
          | .list items => (encodeItems types steps (itemType type) items).map Keccak.hash
          | _ => .error (.abi .claim)
        else encodeElementary type value

/-- The words of the items of a list. -/
def encodeItems (types : Types) : (steps : Nat) → (type : String) → List Arg →
    Except Fault Bytes
  | 0, _, _ => .error (.abi .claim)
  | _, _, [] => .ok []
  | steps + 1, type, item :: rest => do
    let first ← encodeMember types steps type item
    return first ++ (← encodeItems types steps type rest)

/-- The hash of a type with the words of the members. -/
def encodeStruct (types : Types) : (steps : Nat) → (type : String) → List Member →
    List (String × Arg) → Except Fault Bytes
  | 0, _, _, _ => .error (.abi .claim)
  | steps + 1, type, members, fields => do
    return typeHash types type ++ (← encodeFields types steps members fields)

/-- The words of the members in the order of the type. -/
def encodeFields (types : Types) : (steps : Nat) → List Member → List (String × Arg) →
    Except Fault Bytes
  | 0, _, _ => .error (.abi .claim)
  | _, [], _ => .ok []
  | steps + 1, member :: rest, fields => do
    let value := (Arg.find? member.name fields).getD .null
    let first ← encodeMember types steps member.type value
    return first ++ (← encodeFields types steps rest fields)

end

mutual

/-- The number of parts in a value, itself one. -/
def size : Arg → Nat
  | .list items => sizes items + 1
  | .record fields => fieldSizes fields + 1
  | _ => 1

def sizes : List Arg → Nat
  | [] => 0
  | item :: rest => size item + sizes rest

def fieldSizes : List (String × Arg) → Nat
  | [] => 0
  | (_, value) :: rest => size value + fieldSizes rest

end

/-- As many steps as any value can need: each part is met under each of the types'
members. -/
def stepBound (types : Types) (value : Arg) : Nat :=
  let members := (types.map fun (_, members) => members.length).foldl max 0
  (size value + 2) * (members + 3)

/-- The hash of a structured value. -/
def structHash (types : Types) (type : String) (value : Arg) : Except Fault Bytes :=
  match value with
  | .record fields =>
    (encodeStruct types (stepBound types value) type ((findType? type types).getD [])
      fields).map Keccak.hash
  | other => .error (.operation s!"'{other.kindName}' object has no attribute 'get'")

/-! ## Domains and digests -/

/-- The parts of a domain that are given; an address that is empty is not. -/
def Domain.fields (domain : Domain) : List (String × Arg) :=
  [("name", domain.name), ("version", domain.version), ("chainId", domain.chainId)] ++
    if truthy domain.verifyingContract then [("verifyingContract", domain.verifyingContract)]
    else []

/-- The type of a domain has the members that are given. -/
def Domain.types (domain : Domain) : Types :=
  [("EIP712Domain", domain.fields.map fun (name, _) =>
    ⟨name, if name = "chainId" then "uint256"
      else if name = "verifyingContract" then "address" else "string"⟩)]

def Domain.hash (domain : Domain) : Except Fault Bytes :=
  structHash domain.types "EIP712Domain" (.record domain.fields)

/-- The bytes whose hash is signed. -/
def preimage (domain : Domain) (types : Types) (value : Arg) : Except Fault Bytes := do
  let place ← domain.hash
  match primaryType? types with
  | none => throw (.abi .claim)
  | some type => return 0x19 :: 0x01 :: place ++ (← structHash types type value)

/-- The digest that is signed. -/
def digest (domain : Domain) (types : Types) (value : Arg) : Except Fault Bytes :=
  (preimage domain types value).map Keccak.hash

end Provisioning.TypedData
