import Provisioning.Fault

/-!
# Arguments

What is handed to a contract function, a claim or a key: a document that may hold
byte strings. Numbers keep their kind, since an ABI type takes integers only.
-/

namespace Provisioning

inductive Arg where
  | null
  | bool (value : Bool)
  | int (value : Int)
  | float (value : Binary64)
  | str (value : String)
  | bytes (value : Bytes)
  | list (items : List Arg)
  | record (fields : List (String × Arg))
deriving BEq, Inhabited

namespace Arg

mutual

def ofJson : Json → Arg
  | .null => .null
  | .bool b => .bool b
  | .int n => .int n
  | .float x => .float x
  | .str s => .str s
  | .arr items => .list (ofItems items)
  | .obj fields => .record (ofFields fields)

def ofItems : List Json → List Arg
  | [] => []
  | item :: rest => ofJson item :: ofItems rest

def ofFields : List (String × Json) → List (String × Arg)
  | [] => []
  | (key, value) :: rest => (key, ofJson value) :: ofFields rest

end

mutual

/-- The document of an argument; a byte string is shown as text. -/
def toJson : Arg → Json
  | .null => .null
  | .bool b => .bool b
  | .int n => .int n
  | .float x => .float x
  | .str s => .str s
  | .bytes b => .str (Text.quotedBytes b)
  | .list items => .arr (toItems items)
  | .record fields => .obj (toFields fields)

def toItems : List Arg → List Json
  | [] => []
  | item :: rest => toJson item :: toItems rest

def toFields : List (String × Arg) → List (String × Json)
  | [] => []
  | (key, value) :: rest => (key, toJson value) :: toFields rest

end

/-- The argument bound to a key. -/
def find? (key : String) : List (String × Arg) → Option Arg
  | [] => none
  | (k, v) :: rest => if k = key then some v else find? key rest

/-- What a number is worth, if that is an integer. -/
def integer? : Arg → Option Int
  | .bool b => some (if b then 1 else 0)
  | .int n => some n
  | .float x => x.integer?
  | _ => none

/-- The name of a kind of argument. -/
def kindName : Arg → String
  | .null => "NoneType"
  | .bool _ => "bool"
  | .int _ => "int"
  | .float _ => "float"
  | .str _ => "str"
  | .bytes _ => "bytes"
  | .list _ => "list"
  | .record _ => "dict"

/-- An integer: a fraction is cut off, a text is read as a numeral. -/
def toInt : Arg → Except Fault Int
  | .bool b => .ok (if b then 1 else 0)
  | .int n => .ok n
  | .float x =>
    match x.truncate? with
    | some n => .ok n
    | none => .error (if x.isNaN then .indefinite else .infinite)
  | .str s =>
    match Numeral.int? s.toList with
    | some n => .ok n
    | none => .error (.integer (Text.quoted s))
  | .bytes b =>
    match Numeral.int? (Utf8.decodeLossyChars b) with
    | some n => .ok n
    | none => .error (.integer (Text.quotedBytes b))
  | other =>
    .error (.kind ("int() argument must be a string, a bytes-like object or a real number, " ++
      s!"not '{other.kindName}'"))

/-- A byte string: bytes as they are, a count of zeros, or a list of byte values. -/
def toBytes : Arg → Except Fault Bytes
  | .bytes b => .ok b
  | .bool b => .ok (if b then [0] else [])
  | .int n => if n < 0 then .error .custodyNegative else .ok (List.replicate n.toNat 0)
  | .list items =>
    items.mapM fun item =>
      match item with
      | .int n => if 0 ≤ n ∧ n < 256 then .ok (UInt8.ofNat n.toNat) else .error .indefinite
      | .bool b => .ok (if b then 1 else 0)
      | _ => .error (.kind "not an integer")
  | .record [] => .ok []
  | .record _ => .error (.kind "not an integer")
  | .str _ => .error (.kind "string argument without an encoding")
  | other => .error (.kind s!"cannot convert '{other.kindName}' object to bytes")

end Arg

end Provisioning
