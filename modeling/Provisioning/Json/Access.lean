import Provisioning.Bytes.Base64
import Provisioning.Fault

/-!
# Taking documents apart

The partial operations on values that the rest uses, each with the fault that it
ends in: a member of an object, the items of whatever can be gone through, an
integer from a number or a numeral, a member of an enumeration.
-/

namespace Provisioning.Json

/-- The name of a kind of value. -/
def kindName : Json → String
  | .null => "NoneType"
  | .bool _ => "bool"
  | .int _ => "int"
  | .float _ => "float"
  | .str _ => "str"
  | .arr _ => "list"
  | .obj _ => "dict"

/-- A member that must be there. -/
def field (key : String) : Json → Except Fault Json
  | .obj fields =>
    match find? key fields with
    | some value => .ok value
    | none => .error (.absent key)
  | .str _ => .error (.kind "string indices must be integers, not 'str'")
  | .arr _ => .error (.kind "list indices must be integers or slices, not str")
  | other => .error (.kind s!"'{other.kindName}' object is not subscriptable")

/-- A member that may be left out; only objects have members. -/
def fieldD (document : Json) (key : String) (default : Json) : Except Fault Json :=
  match document with
  | .obj fields => .ok ((find? key fields).getD default)
  | other => .error (.operation s!"'{other.kindName}' object has no attribute 'get'")

/-- Whether one text occurs inside another. -/
def occurs (part : List Char) : List Char → Bool
  | [] => part.isEmpty
  | c :: rest => part.isPrefixOf (c :: rest) || occurs part rest

/-- Whether a key is among the keys of an object, the items of a list or the parts
of a text. -/
def mentions (key : String) : Json → Except Fault Bool
  | .obj fields => .ok (find? key fields).isSome
  | .arr items => .ok (items.any (same (.str key)))
  | .str s => .ok (occurs key.toList s.toList)
  | other => .error (.kind s!"argument of type '{other.kindName}' is not iterable")

/-- What can be gone through: the items of a list, the characters of a text, the
keys of an object. -/
def items : Json → Except Fault (List Json)
  | .arr items => .ok items
  | .str s => .ok (s.toList.map fun c => .str (String.singleton c))
  | .obj fields => .ok (fields.map fun f => .str f.1)
  | other => .error (.kind s!"'{other.kindName}' object is not iterable")

/-- A text. -/
def asText (operation : String) : Json → Except Fault String
  | .str s => .ok s
  | other => .error (.operation s!"'{other.kindName}' object has no attribute '{operation}'")

/-- An integer: a fraction is cut off, a text is read as a numeral. -/
def toInt : Json → Except Fault Int
  | .bool b => .ok (if b then 1 else 0)
  | .int n => .ok n
  | .float x =>
    match x.truncate? with
    | some n => .ok n
    | none => .error (if x.isNaN then .indefinite else .infinite)
  | .str s =>
    match Numeral.int? s.toList with
    | some n => .ok n
    | none => .error (.integer (Text.quoted s))
  | other =>
    .error (.kind ("int() argument must be a string, a bytes-like object or a real number, " ++
      s!"not '{other.kindName}'"))

/-- A member of an enumeration, given by its code. -/
def member {α : Type} (enumeration : String) (ofCode? : Int → Option α) (value : Json) :
    Except Fault α :=
  match value.integer?.bind ofCode? with
  | some a => .ok a
  | none => .error (.refusal (.notMember value.shown enumeration))

/-- The bytes of base64 text. -/
def base64 : Json → Except Fault Bytes
  | .str s =>
    if s.toList.all (fun c => c.toNat < 128) then
      match Base64.decode? s.toList with
      | some bytes => .ok bytes
      | none => .error .base64
    else .error .base64Character
  | other =>
    .error (.kind ("argument should be a bytes-like object or ASCII string, " ++
      s!"not '{other.kindName}'"))

/-- The bytes of the hexadecimal text behind a mark of two characters. -/
def markedHex : Json → Except Fault Bytes
  | .str s =>
    match Hex.decode (s.toList.drop 2) with
    | .ok bytes => .ok bytes
    | .error position => .error (.hex position)
  | .arr _ => .error (.kind "fromhex() argument must be str, not list")
  | .obj _ => .error (.kind "unhashable type: 'slice'")
  | other => .error (.kind s!"'{other.kindName}' object is not subscriptable")

end Provisioning.Json
