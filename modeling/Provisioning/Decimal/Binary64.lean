import Provisioning.Numbers

/-!
# Binary64 numbers

A binary64 number is its sixty-four bits: a sign, and a magnitude that orders the
non-negative numbers as their bits. A finite magnitude stands for
`significand · 2 ^ exponent`. `Binary64.ofRatio` rounds a quotient of naturals to
the nearest number, a tie to the even significand, in exact arithmetic; numbers
past the largest finite one become infinite.
-/

namespace Provisioning

structure Binary64 where
  bits : UInt64
deriving DecidableEq, Inhabited

namespace Binary64

def ofFloat (x : Float) : Binary64 := ⟨x.toBits⟩

def toFloat (x : Binary64) : Float := Float.ofBits x.bits

/-- The bits below the sign. -/
def magnitude (x : Binary64) : Nat := x.bits.toNat % 2 ^ 63

def isNegative (x : Binary64) : Bool := 2 ^ 63 ≤ x.bits.toNat

/-- The magnitude of infinity; greater ones are no numbers. -/
def infiniteMagnitude : Nat := 0x7ff * 2 ^ 52

def isNaN (x : Binary64) : Bool := infiniteMagnitude < x.magnitude

def isInfinite (x : Binary64) : Bool := x.magnitude == infiniteMagnitude

def isFinite (x : Binary64) : Bool := x.magnitude < infiniteMagnitude

def isZero (x : Binary64) : Bool := x.magnitude == 0

/-- The number with a sign and a magnitude. -/
def make (negative : Bool) (magnitude : Nat) : Binary64 :=
  ⟨UInt64.ofNat (magnitude + if negative then 2 ^ 63 else 0)⟩

/-- The quiet number that is none. -/
def nan : Binary64 := make false (infiniteMagnitude + 2 ^ 51)

def infinity (negative : Bool) : Binary64 := make negative infiniteMagnitude

/-- The factor of the power of two in a magnitude. -/
def significandOf (magnitude : Nat) : Nat :=
  if magnitude < 2 ^ 52 then magnitude else 2 ^ 52 + magnitude % 2 ^ 52

/-- The exponent of two in a magnitude. -/
def exponentOf (magnitude : Nat) : Int :=
  if magnitude < 2 ^ 52 then -1074 else (magnitude / 2 ^ 52 : Nat) - 1075

/-- The quotient `num / den` rounded to the nearest natural, a tie to the even
one. -/
def roundDiv (num den : Nat) : Nat :=
  let quotient := num / den
  let remainder := num % den
  if 2 * remainder < den then quotient
  else if den < 2 * remainder then quotient + 1
  else if quotient % 2 = 0 then quotient
  else quotient + 1

/-- The greatest `e` with `2 ^ e ≤ num / den`, both positive. -/
def floorLog2 (num den : Nat) : Int :=
  let e : Int := (num.log2 : Int) - (den.log2 : Int)
  let reached :=
    if 0 ≤ e then den * 2 ^ e.toNat ≤ num else den ≤ num * 2 ^ (-e).toNat
  if reached then e else e - 1

/-- The magnitude nearest to `num / den`. -/
def magnitudeOfRatio (num den : Nat) : Nat :=
  if num = 0 then 0
  else
    let e := max (-1074) (floorLog2 num den - 52)
    let significand :=
      if 0 ≤ e then roundDiv num (den * 2 ^ e.toNat)
      else roundDiv (num * 2 ^ (-e).toNat) den
    min infiniteMagnitude ((e + 1074).toNat * 2 ^ 52 + significand)

def ofRatio (negative : Bool) (num den : Nat) : Binary64 :=
  make negative (magnitudeOfRatio num den)

/-- The number of decimal digits of `n`; zero has one. -/
def digitCount (n : Nat) : Nat := (Nat.toDigits 10 n).length

/-- The number nearest to `digits · 10 ^ exponent`. Values certain to overflow or
to vanish are told by their decimal exponent alone. -/
def ofDecimal (negative : Bool) (digits : Nat) (exponent : Int) : Binary64 :=
  if digits = 0 then make negative 0
  else
    let top := exponent + digitCount digits
    if 310 < top then infinity negative
    else if top < -330 then make negative 0
    else if 0 ≤ exponent then ofRatio negative (digits * 10 ^ exponent.toNat) 1
    else ofRatio negative digits (10 ^ (-exponent).toNat)

/-- The exact value of a finite magnitude as a quotient. -/
def ratioOf (magnitude : Nat) : Nat × Nat :=
  let e := exponentOf magnitude
  if 0 ≤ e then (significandOf magnitude * 2 ^ e.toNat, 1)
  else (significandOf magnitude, 2 ^ (-e).toNat)

/-- The integer part, toward zero; none of an infinite number or of none. -/
def truncate? (x : Binary64) : Option Int :=
  if x.isFinite then
    let (num, den) := ratioOf x.magnitude
    let whole : Int := num / den
    some (if x.isNegative then -whole else whole)
  else none

/-- A finite number without a fractional part, as an integer. -/
def integer? (x : Binary64) : Option Int :=
  if x.isFinite then
    let (num, den) := ratioOf x.magnitude
    if num % den = 0 then
      let whole : Int := num / den
      some (if x.isNegative then -whole else whole)
    else none
  else none

/-- Numerical equality: the zeros agree, and what is no number equals nothing. -/
def same (x y : Binary64) : Bool :=
  !x.isNaN && !y.isNaN && (x.bits == y.bits || (x.isZero && y.isZero))

end Binary64

end Provisioning
