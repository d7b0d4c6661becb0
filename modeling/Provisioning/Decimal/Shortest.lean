import Provisioning.Decimal.Binary64

/-!
# Shortest decimal text

A binary64 number is written with the fewest digits that read back as the same
number, and of those the nearest to it. The reals that round to a number form an
interval, closed when its significand is even; for one, two, up to seventeen
digits the two neighbours of the value on that decimal grid are tried against the
interval. `FloatFormat` says how the digits are laid out.
-/

namespace Provisioning.Decimal

/-- A positive value `num / den` with the bounds of its rounding interval over the
same denominator. -/
structure Interval where
  low : Nat
  value : Nat
  high : Nat
  den : Nat
  closed : Bool

/-- The rounding interval of a finite positive magnitude, in quarters of a unit in
the last place: below a power of two the lower neighbour is twice as near. -/
def Interval.ofMagnitude (magnitude : Nat) : Interval :=
  let m := Binary64.significandOf magnitude
  let e := Binary64.exponentOf magnitude - 2
  let below := if m = 2 ^ 52 ∧ -1074 < e + 2 then 1 else 2
  let closed := m % 2 == 0
  if 0 ≤ e then
    let unit := 2 ^ e.toNat
    ⟨(4 * m - below) * unit, 4 * m * unit, (4 * m + 2) * unit, 1, closed⟩
  else ⟨4 * m - below, 4 * m, 4 * m + 2, 2 ^ (-e).toNat, closed⟩

/-- `n · 10 ^ p` brought over a power of ten: numerator and denominator. -/
def scaled (n : Nat) (p : Int) : Nat × Nat :=
  if 0 ≤ p then (n * 10 ^ p.toNat, 1) else (n, 10 ^ (-p).toNat)

/-- Whether the decimal `n · 10 ^ p` lies in the interval. -/
def Interval.holds (i : Interval) (n : Nat) (p : Int) : Bool :=
  let (num, scale) := scaled n p
  let here := num * i.den
  if i.closed then i.low * scale ≤ here && here ≤ i.high * scale
  else i.low * scale < here && here < i.high * scale

/-- The distance from the value to `n · 10 ^ p`, over a common denominator. -/
def Interval.distance (i : Interval) (n : Nat) (p : Int) : Nat :=
  let (num, scale) := scaled n p
  let here := num * i.den
  let value := i.value * scale
  if here ≤ value then value - here else here - value

/-- The greatest `n` with `n · 10 ^ p` at most the value. -/
def Interval.floorOn (i : Interval) (p : Int) : Nat :=
  if 0 ≤ p then i.value / (i.den * 10 ^ p.toNat) else i.value * 10 ^ (-p).toNat / i.den

/-- The decimal exponent of the value's first digit. -/
def Interval.leading (i : Interval) : Int :=
  let guess := Binary64.floorLog2 i.value i.den * 30103 / 100000
  if 0 < i.floorOn (guess + 1) then guess + 1
  else if 0 < i.floorOn guess then guess
  else guess - 1

/-- The neighbour of the value on the grid of `10 ^ p` that lies in the interval;
of two the nearer, of two as near the even one. -/
def Interval.pick? (i : Interval) (p : Int) : Option Nat :=
  let n := i.floorOn p
  match i.holds n p, i.holds (n + 1) p with
  | true, true =>
    let down := i.distance n p
    let up := i.distance (n + 1) p
    if down < up then some n
    else if up < down then some (n + 1)
    else if n % 2 = 0 then some n
    else some (n + 1)
  | true, false => some n
  | false, true => some (n + 1)
  | false, false => none

/-- The first grid with a hit, from `count` digits on. -/
def Interval.search (i : Interval) (leading : Int) : (steps count : Nat) → Nat × Int
  | 0, count => (i.floorOn (leading - count + 1), leading - count + 1)
  | steps + 1, count =>
    let p := leading - count + 1
    match i.pick? p with
    | some n => (n, p)
    | none => search i leading steps (count + 1)

/-- Moves trailing zeros of the digits into the exponent; `steps` bounds them. -/
def trimZeros : (steps : Nat) → Nat × Int → Nat × Int
  | 0, decimal => decimal
  | steps + 1, (n, p) => if n ≠ 0 ∧ n % 10 = 0 then trimZeros steps (n / 10, p + 1) else (n, p)

/-- The shortest decimal `n · 10 ^ p` of a finite positive magnitude. -/
def shortest (magnitude : Nat) : Nat × Int :=
  let i := Interval.ofMagnitude magnitude
  trimZeros 18 (i.search i.leading 17 1)

/-- The layout of a binary64 number: which exponents of the first digit are
written positionally, how many digits an exponent has at least, and the words for
what is not finite. -/
structure FloatFormat where
  positionalFrom : Int
  positionalBelow : Int
  exponentDigits : Nat
  nan : String
  infinity : String

/-- A natural in decimal, with zeros in front up to `width`. -/
def padded (width n : Nat) : List Char :=
  let digits := Nat.toDigits 10 n
  List.replicate (width - digits.length) '0' ++ digits

/-- The digits `n · 10 ^ p` of a positive number in a layout. -/
def FloatFormat.layout (format : FloatFormat) (n : Nat) (p : Int) : List Char :=
  let digits := Nat.toDigits 10 n
  let count := digits.length
  let leading := p + count - 1
  if format.positionalFrom ≤ leading ∧ leading < format.positionalBelow then
    if 0 ≤ p then digits ++ List.replicate p.toNat '0' ++ ['.', '0']
    else if 0 ≤ leading then
      digits.take (leading.toNat + 1) ++ '.' :: digits.drop (leading.toNat + 1)
    else '0' :: '.' :: List.replicate ((-leading).toNat - 1) '0' ++ digits
  else
    let sign := if leading < 0 then '-' else '+'
    let fraction :=
      match digits with
      | first :: second :: rest => first :: '.' :: second :: rest
      | _ => digits
    fraction ++ 'e' :: sign :: padded format.exponentDigits leading.natAbs

def FloatFormat.write (format : FloatFormat) (x : Binary64) : List Char :=
  let sign := if x.isNegative then ['-'] else []
  if x.isNaN then format.nan.toList
  else if x.isInfinite then sign ++ format.infinity.toList
  else if x.isZero then sign ++ ['0', '.', '0']
  else
    let (n, p) := shortest x.magnitude
    sign ++ format.layout n p

/-- Numbers in log lines and texts: positional from `1e-4` to below `1e16`. -/
def plainFloat : FloatFormat := ⟨-4, 16, 2, "nan", "inf"⟩

/-- Numbers in documents: as in texts, but for the words. -/
def documentFloat : FloatFormat := ⟨-4, 16, 2, "NaN", "Infinity"⟩

/-- The text of a binary64 number. -/
def floatText (x : Binary64) : String :=
  String.ofList (plainFloat.write x)

end Provisioning.Decimal
