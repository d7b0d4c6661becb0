import Provisioning.Crypto.Ed25519
import Provisioning.Crypto.Secp256k1

/-!
# What is assumed of the signature schemes

That a signature is accepted under the key it was made with is a matter of the groups of the
two curves, and is not proved here for all digests. Where a statement needs it, it is assumed
of the digest at hand: `Ed25519.Accepts` and `Secp256k1.Recovers` say so of the schemes
themselves. For a given digest both can be evaluated, the second one by way of
`Secp256k1.recovers_of_steps`.
-/

namespace Provisioning

/-- The signature that a seed gives a digest is valid under the public key of the seed. -/
def Ed25519.Accepts (seed digest : Bytes) : Prop :=
  verify (publicKey seed) digest (sign seed digest) = true

/-- From the signature of a digest the curve gives back the public key of the secret. -/
def Secp256k1.Recovers (secret : Nat) (digest : Bytes) : Prop :=
  recover? (sign secret digest) digest = some (publicKey secret)

/-! ## Evaluation in steps

A value that an evaluation by need puts off is worked out again wherever it has been
substituted. What is settled is worked out first. -/

section Settled

variable {α : Type}

/-- Hands on a number that has been worked out. -/
def settled (number : Nat) (next : Nat → α) : α :=
  match number with
  | 0 => next 0
  | k + 1 => next (k + 1)

@[simp] theorem settled_eq (number : Nat) (next : Nat → α) : settled number next = next number := by
  cases number <;> rfl

namespace Secp256k1

/-- Hands on a point whose coordinates have been worked out. -/
def Point.settled (point : Point) (next : Point → α) : α :=
  Provisioning.settled point.x fun x => Provisioning.settled point.y fun y =>
    Provisioning.settled point.z fun z => next ⟨x, y, z⟩

@[simp] theorem Point.settled_eq (point : Point) (next : Point → α) :
    point.settled next = next point := by
  simp [Point.settled]

end Secp256k1

end Settled

namespace Secp256k1

variable {secret : Nat} {digest : Bytes} {signature : Signature}

/-- The nonce that is tried first. -/
def firstNonce (secret : Nat) (digest : Bytes) : Nat :=
  let state := NonceState.seed secret digest
  Bytes.toNat (Hmac.sha256 state.key state.value)

/-- The signature that a nonce gives, in steps. -/
def signInSteps? (secret digest nonce : Nat) : Option Signature :=
  settled nonce fun nonce =>
    if nonce = 0 ∨ n ≤ nonce then none
    else (generator.times nonce).settled (signAt? secret digest nonce)

theorem signInSteps?_eq (secret digest nonce : Nat) :
    signInSteps? secret digest nonce = signWith? secret digest nonce := by
  simp only [signInSteps?, settled_eq, Point.settled_eq, signWith?]

theorem signFrom_of_first {digest tries : Nat} {state : NonceState}
    (first : signWith? secret digest (Bytes.toNat (Hmac.sha256 state.key state.value)) =
      some signature) :
    signFrom (tries + 1) state secret digest = signature := by
  rw [signFrom]
  simp only [first]

/-- The key that a signature of a digest gives back, in steps. -/
def recoverInSteps? (signature : Signature) (digest : Bytes) : Option Bytes :=
  if signature.r = 0 ∨ signature.s = 0 ∨ n ≤ signature.r ∨ n ≤ signature.s then none
  else
    match lift? signature.r signature.odd with
    | none => none
    | some point =>
      let i := Modular.inverse n signature.r
      let a := (n - Bytes.toNat digest % n) * i % n
      let b := signature.s * i % n
      (generator.times a).settled fun left => (point.times b).settled fun right =>
        (left.add right).settled Point.bytes?

theorem recoverInSteps?_eq (signature : Signature) (digest : Bytes) :
    recoverInSteps? signature digest = recover? signature digest := by
  have added (left right : Point) :
      (left.settled fun left => right.settled fun right =>
        (left.add right).settled Point.bytes?) = (left.add right).bytes? := by
    rw [Point.settled_eq, Point.settled_eq, Point.settled_eq]
  unfold recoverInSteps? recover?
  split
  · rfl
  · cases lift? signature.r signature.odd with
    | none => rfl
    | some point => exact added _ _

/-- The public key is given back if the steps come to it. -/
theorem recovers_of_steps (signature : Signature)
    (signed : signInSteps? secret (Bytes.toNat digest) (firstNonce secret digest) =
      some signature)
    (recovered : recoverInSteps? signature digest = some (publicKey secret)) :
    Recovers secret digest := by
  rw [signInSteps?_eq] at signed
  have isSigned : sign secret digest = signature := signFrom_of_first signed
  rw [Recovers, isSigned, ← recoverInSteps?_eq, recovered]

end Secp256k1

end Provisioning
