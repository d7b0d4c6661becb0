import Provisioning.Decimal.Shortest

/-!
# Shortest digits of positive numbers

The search for the shortest digits of a positive number tries the decimals in its rounding
interval, which zero is not in, and falls back on the seventeenth place behind the leading
one. The leading place is guessed from the binary exponent, so the fallback alone could
come to nothing. It does not where a layout writes zeros behind the digits
(`Decimal.shortest_pos`).
-/

namespace Provisioning

/-- Where the binary exponent of a quotient is not negative, its power is reached. -/
theorem Binary64.floorLog2_le {num den : Nat} (natural : 0 ≤ floorLog2 num den) :
    den * 2 ^ (floorLog2 num den).toNat ≤ num := by
  have atMost : floorLog2 num den ≤ (num.log2 : Int) - den.log2 := by
    unfold floorLog2
    simp only
    split <;> omega
  have difference : 0 ≤ (num.log2 : Int) - den.log2 := Int.le_trans natural atMost
  unfold floorLog2 at natural ⊢
  simp only [if_pos difference] at natural ⊢
  split at natural
  · next reached =>
    rw [if_pos reached]
    exact reached
  · next missed =>
    rw [if_neg missed]
    have some : num ≠ 0 := by
      rintro rfl
      simp only [Nat.log2_zero] at natural
      omega
    have exponents : den.log2 + 1 + ((num.log2 : Int) - den.log2 - 1).toNat = num.log2 := by
      omega
    calc den * 2 ^ ((num.log2 : Int) - den.log2 - 1).toNat
        ≤ 2 ^ (den.log2 + 1) * 2 ^ ((num.log2 : Int) - den.log2 - 1).toNat :=
          Nat.mul_le_mul_right _ (Nat.le_of_lt Nat.lt_log2_self)
      _ = 2 ^ num.log2 := by rw [← Nat.pow_add, exponents]
      _ ≤ num := Nat.log2_self_le some

namespace Decimal

namespace Interval

variable {i : Interval} {p : Int} {n : Nat}

theorem low_ofMagnitude_pos {magnitude : Nat} (positive : 0 < magnitude) :
    0 < (ofMagnitude magnitude).low := by
  have significand : 0 < Binary64.significandOf magnitude := by
    unfold Binary64.significandOf
    split <;> omega
  unfold ofMagnitude
  simp only
  split
  · refine Nat.mul_pos ?_ (Nat.two_pow_pos _)
    split <;> omega
  · simp only
    split <;> omega

theorem den_ofMagnitude_pos (magnitude : Nat) : 0 < (ofMagnitude magnitude).den := by
  unfold ofMagnitude
  simp only
  split
  · exact Nat.one_pos
  · exact Nat.two_pow_pos _

theorem holds_zero (low : 0 < i.low) : i.holds 0 p = false := by
  have scale : 0 < (scaled 0 p).2 := by
    unfold scaled
    split
    · exact Nat.one_pos
    · exact Nat.pow_pos (by decide)
  have zero : (scaled 0 p).1 = 0 := by
    unfold scaled
    split <;> simp
  have above : 0 < i.low * (scaled 0 p).2 := Nat.mul_pos low scale
  simp only [holds, zero, Nat.zero_mul]
  split
  · simp [Nat.not_le.mpr above]
  · simp

theorem pick?_pos (low : 0 < i.low) (picked : i.pick? p = some n) : 0 < n := by
  refine Nat.pos_of_ne_zero ?_
  rintro rfl
  have below : i.floorOn p = 0 → i.holds (i.floorOn p) p = false := by
    intro zero
    rw [zero]
    exact holds_zero low
  unfold pick? at picked
  simp only at picked
  repeat' split at picked
  all_goals simp_all

/-- The search ends at a positive decimal or at its last place. -/
theorem search_cases (low : 0 < i.low) (leading : Int) (steps count : Nat) :
    0 < (i.search leading steps count).1 ∨
      i.search leading steps count =
        (i.floorOn (leading - (count + steps : Nat) + 1), leading - (count + steps : Nat) + 1) := by
  induction steps generalizing count with
  | zero => exact .inr rfl
  | succ steps ih =>
    rw [search]
    split
    · next n picked => exact .inl (pick?_pos low picked)
    · have places : count + 1 + steps = count + (steps + 1) := by omega
      rw [← places]
      exact ih (count + 1)

theorem floorOn_pos_iff (den : 0 < i.den) (natural : 0 ≤ p) :
    0 < i.floorOn p ↔ i.den * 10 ^ p.toNat ≤ i.value := by
  rw [floorOn, if_pos natural, Nat.div_pos_iff]
  exact and_iff_right (Nat.mul_pos den (Nat.pow_pos (by decide)))

/-- Seventeen places behind the leading one the value reaches a unit. If it reaches neither
guess of the leading place, that is because it has more than sixty-three bits. -/
theorem floorOn_pos (den : 0 < i.den) (last : i.leading = p + 17) (positive : 0 < p)
    (small : p < 16) : 0 < i.floorOn p := by
  have lower : ∀ q : Int, p ≤ q → 0 < i.floorOn q → 0 < i.floorOn p := by
    intro q above reached
    rw [floorOn_pos_iff den (by omega)] at reached ⊢
    exact Nat.le_trans (Nat.mul_le_mul_left _ (Nat.pow_le_pow_right (by decide) (by omega))) reached
  unfold leading at last
  simp only at last
  split at last
  · next reached => exact lower _ (by omega) reached
  · split at last
    · next reached => exact lower _ (by omega) reached
    · have exponent : 63 ≤ Binary64.floorLog2 i.value i.den := by omega
      rw [floorOn_pos_iff den (Int.le_of_lt positive)]
      calc i.den * 10 ^ p.toNat
          ≤ i.den * 10 ^ 15 :=
            Nat.mul_le_mul_left _ (Nat.pow_le_pow_right (by decide) (by omega))
        _ ≤ i.den * 2 ^ 63 := Nat.mul_le_mul_left _ (by decide)
        _ ≤ i.den * 2 ^ (Binary64.floorLog2 i.value i.den).toNat :=
            Nat.mul_le_mul_left _ (Nat.pow_le_pow_right (by decide) (by omega))
        _ ≤ i.value := Binary64.floorLog2_le (by omega)

end Interval

theorem trimZeros_pos (steps : Nat) {decimal : Nat × Int} (positive : 0 < decimal.1) :
    0 < (trimZeros steps decimal).1 := by
  induction steps generalizing decimal with
  | zero => exact positive
  | succ steps ih =>
    obtain ⟨n, p⟩ := decimal
    rw [trimZeros]
    split
    · next trailing => exact ih (by omega)
    · exact positive

theorem trimZeros_zero (steps : Nat) (p : Int) : trimZeros steps (0, p) = (0, p) := by
  cases steps with
  | zero => rfl
  | succ steps => rw [trimZeros, if_neg (by simp)]

/-- Where up to fifteen zeros stand behind the shortest digits of a positive number, the
digits are not themselves zero. -/
theorem shortest_pos {magnitude : Nat} (positive : 0 < magnitude)
    (zeros : 0 < (shortest magnitude).2) (few : (shortest magnitude).2 < 16) :
    0 < (shortest magnitude).1 := by
  unfold shortest at zeros few ⊢
  simp only at zeros few ⊢
  have low := Interval.low_ofMagnitude_pos positive
  have den := Interval.den_ofMagnitude_pos magnitude
  generalize Interval.ofMagnitude magnitude = i at low den zeros few ⊢
  rcases i.search_cases low i.leading 17 1 with found | last
  · exact trimZeros_pos 18 found
  · rw [last] at zeros few ⊢
    refine trimZeros_pos 18 (Nat.pos_of_ne_zero ?_)
    intro (none : i.floorOn _ = 0)
    rw [none, trimZeros_zero] at zeros few
    exact absurd none (Nat.ne_of_gt (Interval.floorOn_pos den (by omega) zeros few))

end Decimal

end Provisioning
