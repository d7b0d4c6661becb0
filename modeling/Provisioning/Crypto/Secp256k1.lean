import Provisioning.Crypto.Modular
import Provisioning.Crypto.Hmac

/-!
# ECDSA over secp256k1

Points of `y² = x³ + 7` over a prime field are added in Jacobian coordinates,
`(x / z², y / z³)`, with `z = 0` for the point at infinity. Signatures take their
nonce from the key and the digest (RFC 6979), have the lower of the two possible
`s`, and carry the parity that `recover` needs to find the public key.
-/

namespace Provisioning.Secp256k1

/-- The field modulus. -/
def p : Nat := 2 ^ 256 - 2 ^ 32 - 977

/-- The order of the group. -/
def n : Nat := 0xfffffffffffffffffffffffffffffffebaaedce6af48a03bbfd25e8cd0364141

/-- A point in Jacobian coordinates. -/
structure Point where
  x : Nat
  y : Nat
  z : Nat

def infinity : Point := ⟨1, 1, 0⟩

def generator : Point :=
  ⟨0x79be667ef9dcbbac55a06295ce870b07029bfcdb2dce28d959f2815b16f81798,
    0x483ada7726a3c4655da4fbfc0e1108a8fd17b448a68554199c47d08ffb10d4b8, 1⟩

def Point.double (a : Point) : Point :=
  if a.z = 0 ∨ a.y = 0 then infinity
  else
    let yy := a.y * a.y % p
    let s := 4 * a.x * yy % p
    let m := 3 * a.x * a.x % p
    let x := Modular.sub p (m * m % p) (2 * s)
    let y := Modular.sub p (m * Modular.sub p s x % p) (8 * yy * yy)
    ⟨x, y, 2 * a.y * a.z % p⟩

def Point.add (a b : Point) : Point :=
  if a.z = 0 then b
  else if b.z = 0 then a
  else
    let za := a.z * a.z % p
    let zb := b.z * b.z % p
    let u := a.x * zb % p
    let v := b.x * za % p
    let s := a.y * zb % p * b.z % p
    let t := b.y * za % p * a.z % p
    if u = v then if s = t then a.double else infinity
    else
      let h := Modular.sub p v u
      let r := Modular.sub p t s
      let hh := h * h % p
      let hhh := h * hh % p
      let w := u * hh % p
      let x := Modular.sub p (Modular.sub p (r * r % p) hhh) (2 * w)
      let y := Modular.sub p (r * Modular.sub p w x % p) (s * hhh)
      ⟨x, y, h * a.z % p * b.z % p⟩

/-- `k` times a point; `bits` bounds the length of `k`. -/
def Point.timesBits : (bits k : Nat) → Point → Point
  | 0, _, _ => infinity
  | bits + 1, k, a =>
    if k = 0 then infinity
    else
      let half := (timesBits bits (k / 2) a).double
      if k % 2 = 1 then half.add a else half

def Point.times (k : Nat) (a : Point) : Point :=
  timesBits (k.log2 + 1) k a

/-- The coordinates of a point other than infinity. -/
def Point.affine? (a : Point) : Option (Nat × Nat) :=
  if a.z = 0 then none
  else
    let i := Modular.inverse p a.z
    let ii := i * i % p
    some (a.x * ii % p, a.y * ii % p * i % p)

/-- The point with an abscissa and a parity of the ordinate. -/
def lift? (x : Nat) (odd : Bool) : Option Point :=
  if p ≤ x then none
  else
    let square := (x * x % p * x + 7) % p
    let y := Modular.power p square ((p + 1) / 4)
    if y * y % p = square then
      some ⟨x, if (y % 2 == 1) == odd then y else (p - y) % p, 1⟩
    else none

/-- The 64 bytes of a point other than infinity. -/
def Point.bytes? (a : Point) : Option Bytes :=
  a.affine?.map fun (x, y) => Bytes.bigEndian 32 x ++ Bytes.bigEndian 32 y

/-- The 64 bytes of a public key. -/
def publicKey (secret : Nat) : Bytes :=
  (generator.times secret).bytes?.getD (List.replicate 64 0)

/-- A signature: the two residues and the parity of the nonce's point. -/
structure Signature where
  r : Nat
  s : Nat
  odd : Bool
deriving DecidableEq

/-- The state of the nonce generator. -/
structure NonceState where
  key : Bytes
  value : Bytes

def NonceState.update (state : NonceState) (separator : UInt8) (input : Bytes) : NonceState :=
  let key := Hmac.sha256 state.key (state.value ++ separator :: input)
  ⟨key, Hmac.sha256 key state.value⟩

/-- The generator seeded with a key and a digest. -/
def NonceState.seed (secret : Nat) (digest : Bytes) : NonceState :=
  let input := Bytes.bigEndian 32 secret ++ Bytes.bigEndian 32 (Bytes.toNat digest % n)
  let start : NonceState := ⟨List.replicate 32 0, List.replicate 32 1⟩
  (start.update 0 input).update 1 input

/-- The signature that a nonce gives with its point, if it gives one. -/
def signAt? (secret digest nonce : Nat) (point : Point) : Option Signature :=
  match point.affine? with
  | none => none
  | some (x, y) =>
    let r := x % n
    let s := Modular.inverse n nonce * (digest + r * secret) % n
    if r = 0 ∨ s = 0 then none
    else if n / 2 < s then some ⟨r, n - s, y % 2 == 0⟩
    else some ⟨r, s, y % 2 == 1⟩

/-- The signature that a nonce gives, if it gives one. -/
def signWith? (secret digest nonce : Nat) : Option Signature :=
  if nonce = 0 ∨ n ≤ nonce then none
  else signAt? secret digest nonce (generator.times nonce)

/-- Tries the nonces of the generator in turn. -/
def signFrom : (tries : Nat) → NonceState → (secret digest : Nat) → Signature
  | 0, _, _, _ => ⟨0, 0, false⟩
  | tries + 1, state, secret, digest =>
    let value := Hmac.sha256 state.key state.value
    let state : NonceState := ⟨state.key, value⟩
    match signWith? secret digest (Bytes.toNat value) with
    | some signature => signature
    | none =>
      let key := Hmac.sha256 state.key (state.value ++ [0])
      signFrom tries ⟨key, Hmac.sha256 key state.value⟩ secret digest

/-- Signs a digest of 32 bytes. -/
def sign (secret : Nat) (digest : Bytes) : Signature :=
  signFrom 64 (NonceState.seed secret digest) secret (Bytes.toNat digest)

/-- The public key, 64 bytes, under which the signature of a digest is valid; none
if no nonce's point has the abscissa `r`, or the key would be infinity. -/
def recover? (signature : Signature) (digest : Bytes) : Option Bytes :=
  if signature.r = 0 ∨ signature.s = 0 ∨ n ≤ signature.r ∨ n ≤ signature.s then none
  else
    match lift? signature.r signature.odd with
    | none => none
    | some point =>
      let i := Modular.inverse n signature.r
      let a := (n - Bytes.toNat digest % n) * i % n
      let b := signature.s * i % n
      ((generator.times a).add (point.times b)).bytes?

end Provisioning.Secp256k1
