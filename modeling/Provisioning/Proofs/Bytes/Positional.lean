import Provisioning.Bytes

/-!
# Numbers as bytes

A number that fits a width is what its bytes write (`Bytes.toNat_bigEndian`); in a wider
one it has zeros in front (`Bytes.bigEndian_add`).
-/

namespace Provisioning.Bytes

theorem ofLittleEndian_littleEndian {width n : Nat} (fits : n < 256 ^ width) :
    ofLittleEndian (littleEndian width n) = n := by
  induction width generalizing n with
  | zero =>
    have : n = 0 := by simpa using fits
    rw [this]
    rfl
  | succ width ih =>
    have rest : n / 256 < 256 ^ width := by
      rw [Nat.pow_succ] at fits
      omega
    rw [littleEndian, ofLittleEndian, ih rest, UInt8.toNat_ofNat']
    exact Nat.mod_add_div n 256

theorem foldl_toNat (start : Nat) (bytes : Bytes) :
    bytes.foldl (fun n byte => 256 * n + byte.toNat) start =
      start * 256 ^ bytes.length + toNat bytes := by
  induction bytes generalizing start with
  | nil => simp [toNat]
  | cons byte rest ih =>
    rw [toNat, List.foldl_cons, List.foldl_cons, ih, ih (256 * 0 + byte.toNat),
      List.length_cons, Nat.pow_succ, Nat.add_mul, Nat.add_mul]
    grind

theorem toNat_append (front back : Bytes) :
    toNat (front ++ back) = toNat front * 256 ^ back.length + toNat back := by
  rw [toNat, List.foldl_append, foldl_toNat]
  rfl

theorem toNat_reverse (bytes : Bytes) : toNat bytes.reverse = ofLittleEndian bytes := by
  induction bytes with
  | nil => rfl
  | cons byte rest ih =>
    rw [List.reverse_cons, toNat_append, ih, ofLittleEndian]
    simp only [toNat, List.foldl_cons, List.foldl_nil, List.length_singleton]
    omega

/-- The bytes of a number that fits are read as the number. -/
theorem toNat_bigEndian {width n : Nat} (fits : n < 256 ^ width) :
    toNat (bigEndian width n) = n := by
  rw [bigEndian, toNat_reverse, ofLittleEndian_littleEndian fits]

theorem littleEndian_zero (width : Nat) : littleEndian width 0 = List.replicate width 0 := by
  induction width with
  | zero => rfl
  | succ width ih =>
    rw [littleEndian, Nat.zero_div, ih]
    rfl

theorem littleEndian_add {width n : Nat} (fits : n < 256 ^ width) (more : Nat) :
    littleEndian (width + more) n = littleEndian width n ++ List.replicate more 0 := by
  induction width generalizing n with
  | zero =>
    have : n = 0 := by simpa using fits
    rw [this, Nat.zero_add, littleEndian_zero]
    rfl
  | succ width ih =>
    have rest : n / 256 < 256 ^ width := by
      rw [Nat.pow_succ] at fits
      omega
    rw [Nat.succ_add, littleEndian, ih rest]
    rfl

/-- A number that fits fewer bytes has zeros in front. -/
theorem bigEndian_add {width n : Nat} (fits : n < 256 ^ width) (more : Nat) :
    bigEndian (more + width) n = List.replicate more 0 ++ bigEndian width n := by
  rw [bigEndian, Nat.add_comm, littleEndian_add fits, List.reverse_append,
    List.reverse_replicate]
  rfl

end Provisioning.Bytes
