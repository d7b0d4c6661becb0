import Provisioning.Numbers

/-!
# Arithmetic modulo a prime

Residues are naturals below the modulus. `Modular.power` squares and multiplies;
`Modular.inverse` is the power with exponent two below the modulus, which is the
inverse when the modulus is prime.
-/

namespace Provisioning.Modular

def sub (m a b : Nat) : Nat := (a + (m - b % m)) % m

/-- `base ^ exponent` modulo `m`; `bits` bounds the length of the exponent. -/
def powerBits (m : Nat) : (bits base exponent : Nat) → Nat
  | 0, _, _ => 1 % m
  | bits + 1, base, exponent =>
    if exponent = 0 then 1 % m
    else
      let rest := powerBits m bits (base * base % m) (exponent / 2)
      if exponent % 2 = 1 then base * rest % m else rest

def power (m base exponent : Nat) : Nat :=
  powerBits m (exponent.log2 + 1) (base % m) exponent

def inverse (m a : Nat) : Nat :=
  power m a (m - 2)

end Provisioning.Modular
