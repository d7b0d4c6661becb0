import Provisioning.Decimal.Binary64

/-!
# Documents

A document is a JSON value. Integers of any size and binary64 numbers are told
apart, because they are written differently; the members of an object keep their
order. Two equalities matter: `=` tells every difference, and `Json.same` is the
one of values, which compares numbers by what they are worth, truth values among
them, and objects without regard to order.
-/

namespace Provisioning

inductive Json where
  | null
  | bool (value : Bool)
  | int (value : Int)
  | float (value : Binary64)
  | str (value : String)
  | arr (items : List Json)
  | obj (fields : List (String × Json))
deriving BEq, Inhabited

namespace Json

/-- The value a list of members binds to a key. -/
def find? (key : String) : List (String × Json) → Option Json
  | [] => none
  | (k, v) :: rest => if k = key then some v else find? key rest

/-- Binds a key: a bound key keeps its place and takes the new value. -/
def put (key : String) (value : Json) : List (String × Json) → List (String × Json)
  | [] => [(key, value)]
  | (k, v) :: rest => if k = key then (k, value) :: rest else (k, v) :: put key value rest

/-- The member of an object; nothing of any other value. -/
def get? (key : String) : Json → Option Json
  | .obj fields => find? key fields
  | _ => none

/-- Whether a value counts as given: nothing, false, zero and whatever is empty do
not. -/
def truthy : Json → Bool
  | .null => false
  | .bool b => b
  | .int n => n ≠ 0
  | .float x => !x.isZero
  | .str s => s ≠ ""
  | .arr items => !items.isEmpty
  | .obj fields => !fields.isEmpty

/-- What a number is worth, if that is an integer. Truth values count as one and
zero. -/
def integer? : Json → Option Int
  | .bool b => some (if b then 1 else 0)
  | .int n => some n
  | .float x => x.integer?
  | _ => none

/-- Whether a number, or nothing but a number, is written here. -/
def isNumber : Json → Bool
  | .bool _ | .int _ | .float _ => true
  | _ => false

/-- Equality of the worth of two numbers. -/
def sameNumber (a b : Json) : Bool :=
  match a.integer?, b.integer? with
  | some m, some n => m == n
  | none, none =>
    match a, b with
    | .float x, .float y => x.same y
    | _, _ => false
  | _, _ => false

mutual

/-- Equality of values: numbers by worth, objects as finite maps. -/
def same : Json → Json → Bool
  | .null, .null => true
  | .str s, .str t => s == t
  | .arr xs, .arr ys => sameItems xs ys
  | .obj xs, .obj ys => xs.length == ys.length && sameFields xs ys
  | a, b => a.isNumber && b.isNumber && sameNumber a b

def sameItems : List Json → List Json → Bool
  | [], [] => true
  | x :: xs, y :: ys => same x y && sameItems xs ys
  | _, _ => false

/-- Whether every member of the first list is bound to the same value in the
second. -/
def sameFields : List (String × Json) → List (String × Json) → Bool
  | [], _ => true
  | (k, x) :: rest, ys =>
    (match find? k ys with
    | some y => same x y
    | none => false) && sameFields rest ys

end

end Json

end Provisioning
