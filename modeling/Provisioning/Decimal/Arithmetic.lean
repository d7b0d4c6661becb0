import Provisioning.Decimal.Binary64

/-!
# Arithmetic of binary64 numbers

Every finite number is an integer multiple of `2 ^ -1074`; sums, comparisons and
whole quotients are taken on these integers and rounded once. What is no number
makes every sum one that is none, and compares with nothing.
-/

namespace Provisioning.Binary64

/-- How many times `2 ^ -1074` a finite number is. -/
def units (x : Binary64) : Int :=
  let size := significandOf x.magnitude * 2 ^ (exponentOf x.magnitude + 1074).toNat
  if x.isNegative then -(size : Int) else size

/-- The number nearest to a multiple of `2 ^ -1074`. -/
def ofUnits (negativeZero : Bool) (n : Int) : Binary64 :=
  if n = 0 then make negativeZero 0 else ofRatio (n < 0) n.natAbs (2 ^ 1074)

/-- The number nearest to an integer. -/
def ofInt (n : Int) : Binary64 :=
  ofRatio (n < 0) n.natAbs 1

def negate (x : Binary64) : Binary64 :=
  make (!x.isNegative) x.magnitude

/-- The sum, rounded to the nearest number. -/
def add (x y : Binary64) : Binary64 :=
  if x.isNaN || y.isNaN then nan
  else if x.isFinite && y.isFinite then
    ofUnits (x.isNegative && y.isNegative) (x.units + y.units)
  else if x.isFinite then y
  else if y.isFinite || x.isNegative == y.isNegative then x
  else nan

def sub (x y : Binary64) : Binary64 :=
  x.add y.negate

/-- An integer that orders the numbers, the infinite ones among them. -/
def rank (x : Binary64) : Int :=
  if x.isNegative then -(x.magnitude : Int) else x.magnitude

def le (x y : Binary64) : Bool :=
  !x.isNaN && !y.isNaN && x.rank ≤ y.rank

def lt (x y : Binary64) : Bool :=
  !x.isNaN && !y.isNaN && x.rank < y.rank

/-- Zero without a sign. -/
def zero : Binary64 := make false 0

/-- The whole part, downward, of the quotient of two finite numbers. -/
def floorQuotient (x y : Binary64) : Int :=
  Int.fdiv x.units y.units

end Provisioning.Binary64
