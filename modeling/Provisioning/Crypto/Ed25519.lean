import Provisioning.Crypto.Modular
import Provisioning.Crypto.Sha512

/-!
# Ed25519

Points of `-x² + y² = 1 + d·x²·y²` over the field of `2 ^ 255 - 19` elements in
extended coordinates, `(x / z, y / z)` with `t = x · y / z`. Verification is strict:
the second half of a signature is below the order of the group, the public key is
canonical and of large order, the first half is of large order, and it is compared
bytewise with what the rest demands.
-/

namespace Provisioning.Ed25519

/-- The field modulus. -/
def p : Nat := 2 ^ 255 - 19

/-- The order of the group's prime part. -/
def order : Nat := 2 ^ 252 + 27742317777372353535851937790883648493

/-- The curve's constant, `-121665 / 121666`. -/
def d : Nat := 37095705934669439343138083508754565189542113879843219016388785533085940283555

/-- A square root of minus one. -/
def rootOfMinusOne : Nat :=
  19681161376707505956807079304988542015446066515923890162744021073123829784752

/-- A point in extended coordinates. -/
structure Point where
  x : Nat
  y : Nat
  z : Nat
  t : Nat

def identity : Point := ⟨0, 1, 1, 0⟩

def ofAffine (x y : Nat) : Point := ⟨x, y, 1, x * y % p⟩

def base : Point :=
  ofAffine 15112221349535400772501151409588531511454012693041857206046113283949847762202
    46316835694926478169428394003475163141307993866256225615783033603165251855960

/-- The sum of any two points. -/
def Point.add (a b : Point) : Point :=
  let m := Modular.sub p a.y a.x * Modular.sub p b.y b.x % p
  let q := (a.y + a.x) * (b.y + b.x) % p
  let c := 2 * d * a.t % p * b.t % p
  let k := 2 * a.z * b.z % p
  let e := Modular.sub p q m
  let f := Modular.sub p k c
  let g := k + c
  let h := q + m
  ⟨e * f % p, g * h % p, f * g % p, e * h % p⟩

def Point.negate (a : Point) : Point :=
  ⟨(p - a.x) % p, a.y, a.z, (p - a.t) % p⟩

/-- `k` times a point; `bits` bounds the length of `k`. -/
def Point.timesBits : (bits k : Nat) → Point → Point
  | 0, _, _ => identity
  | bits + 1, k, a =>
    if k = 0 then identity
    else
      let half := timesBits bits (k / 2) a
      let double := half.add half
      if k % 2 = 1 then double.add a else double

def Point.times (k : Nat) (a : Point) : Point :=
  timesBits (k.log2 + 1) k a

/-- The ordinate, with the parity of the abscissa in the top bit. -/
def Point.encode (a : Point) : Bytes :=
  let i := Modular.inverse p a.z
  let x := a.x * i % p
  let y := a.y * i % p
  Bytes.littleEndian 32 (y + x % 2 * 2 ^ 255)

/-- The point whose encoding has this ordinate and parity, if there is one. -/
def decode? (bytes : Bytes) : Option Point :=
  let n := Bytes.ofLittleEndian bytes
  let y := n % 2 ^ 255 % p
  let odd := n / 2 ^ 255 % 2
  let u := Modular.sub p (y * y % p) 1
  let v := (d * y % p * y + 1) % p
  let v3 := v * v % p * v % p
  let v7 := v3 * v3 % p * v % p
  let root := u * v3 % p * Modular.power p (u * v7 % p) ((p - 5) / 8) % p
  let check := v * root % p * root % p
  let x? :=
    if check = u then some root
    else if check = (p - u) % p then some (root * rootOfMinusOne % p)
    else none
  x?.map fun x => ofAffine (if x % 2 = odd then x else (p - x) % p) y

/-- The ordinates of the points whose order divides eight, also as residues that
are not reduced. -/
def smallOrdinates : List Nat :=
  [0, 1, 2707385501144840649318225287225658788936804267575313519463743609750303402022,
    55188659117513257062467267217118295137698188065244968500265048394206261417927,
    p - 1, p, p + 1]

def isSmall (bytes : Bytes) : Bool :=
  smallOrdinates.contains (Bytes.ofLittleEndian bytes % 2 ^ 255)

/-- Whether the ordinate is a reduced residue. -/
def isCanonical (bytes : Bytes) : Bool :=
  Bytes.ofLittleEndian bytes % 2 ^ 255 < p

/-- The scalar of a seed and the secret that nonces are made from. -/
def expand (seed : Bytes) : Nat × Bytes :=
  let h := Sha512.hash seed
  let a := Bytes.ofLittleEndian (h.take 32)
  (a % 2 ^ 254 / 8 * 8 + 2 ^ 254, h.drop 32)

/-- The public key of a seed of 32 bytes. -/
def publicKey (seed : Bytes) : Bytes :=
  (base.times (expand seed).1).encode

/-- The hash that binds a nonce's point, a public key and a message. -/
def challenge (point key message : Bytes) : Nat :=
  Bytes.ofLittleEndian (Sha512.hash (point ++ key ++ message)) % order

/-- The signature of 64 bytes that a seed gives a message. -/
def sign (seed message : Bytes) : Bytes :=
  let (a, secret) := expand seed
  let key := (base.times a).encode
  let r := Bytes.ofLittleEndian (Sha512.hash (secret ++ message)) % order
  let point := (base.times r).encode
  let s := (r + challenge point key message * a) % order
  point ++ Bytes.littleEndian 32 s

def verify (key message signature : Bytes) : Bool :=
  let point := signature.take 32
  let s := Bytes.ofLittleEndian (signature.drop 32)
  if key.length = 32 ∧ signature.length = 64 ∧ s < order ∧ !isSmall point ∧
      isCanonical key ∧ !isSmall key then
    match decode? key with
    | none => false
    | some a =>
      let k := challenge point key message
      ((base.times s).add (a.negate.times k)).encode == point
  else false

end Provisioning.Ed25519
