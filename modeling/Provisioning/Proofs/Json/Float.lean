import Provisioning.Proofs.Decimal.Shortest
import Provisioning.Proofs.Json.Numeral

/-!
# Binary64 numbers read back

A finite number is written with a fraction, an exponent or both (`Json.real_layout`), so
its text is never an integer's; what is not finite is written by a word that the reader
knows. Whatever the number, its text is read as one (`Json.readScalar_float`), and the
number that it is read as does not depend on what stands behind it.
-/

namespace Provisioning.Json

open Decimal (documentFloat padded)

/-! ## The parts of a numeral -/

theorem readFraction_digits {digits rest : List Char} (all : Digits digits)
    (ends : EndsDigits rest) : readFraction ('.' :: (digits ++ rest)) = some (digits, rest) := by
  obtain ⟨taken, left⟩ := all.run ends
  rw [readFraction, taken, left, if_neg all.nonempty]

/-- The number of an exponent is that of its digits and its sign. -/
theorem exists_exponent {sign : Char} {digits : List Char} (isSign : sign = '-' ∨ sign = '+')
    (all : Digits digits) : ∃ e : Int, ∀ {rest}, EndsDigits rest →
      readExponent ('e' :: sign :: (digits ++ rest)) = some (e, rest) := by
  rcases isSign with rfl | rfl
  · refine ⟨-Numeral.ofDigits digits, fun ends => ?_⟩
    obtain ⟨taken, left⟩ := all.run ends
    simp only [readExponent, true_or, if_true, Numeral.sign, taken, left, if_neg all.nonempty]
  · refine ⟨Numeral.ofDigits digits, fun ends => ?_⟩
    obtain ⟨taken, left⟩ := all.run ends
    simp only [readExponent, true_or, if_true, Numeral.sign, taken, left, if_neg all.nonempty,
      Bool.false_eq_true, if_false]

/-- The text of a number without a sign that is no integer. -/
inductive RealText : List Char → Prop where
  | fraction {whole digits : List Char} (isWhole : Whole whole) (all : Digits digits) :
      RealText (whole ++ '.' :: digits)
  | exponent {whole digits : List Char} {sign : Char} (isWhole : Whole whole)
      (isSign : sign = '-' ∨ sign = '+') (all : Digits digits) :
      RealText (whole ++ 'e' :: sign :: digits)
  | both {whole behind digits : List Char} {sign : Char} (isWhole : Whole whole)
      (allBehind : Digits behind) (isSign : sign = '-' ∨ sign = '+') (all : Digits digits) :
      RealText (whole ++ '.' :: behind ++ 'e' :: sign :: digits)

theorem endsDigits_point (rest : List Char) : EndsDigits ('.' :: rest) :=
  .cons (by decide)

theorem endsDigits_mark (rest : List Char) : EndsDigits ('e' :: rest) :=
  .cons (by decide)

theorem RealText.read {text : List Char} (real : RealText text) (negative : Bool) :
    ∃ x, ∀ {rest}, EndsNumeral rest →
      readNumber negative (text ++ rest) = some (.float x, rest) := by
  cases real with
  | @fraction whole digits isWhole all =>
    refine ⟨.ofDecimal negative (Numeral.ofDigits (whole ++ digits)) (-digits.length),
      fun ends => ?_⟩
    simp only [List.append_assoc, List.cons_append, readNumber,
      isWhole.read (endsDigits_point _), readFraction_digits all ends.digits,
      readExponent_of_ends ends]
  | @exponent whole _ _ isWhole isSign all =>
    obtain ⟨e, exponent⟩ := exists_exponent isSign all
    refine ⟨.ofDecimal negative (Numeral.ofDigits whole) e, fun ends => ?_⟩
    simp only [List.append_assoc, List.cons_append, readNumber,
      isWhole.read (endsDigits_mark _), exponent ends.digits]
    rfl
  | @both whole behind _ _ isWhole allBehind isSign all =>
    obtain ⟨e, exponent⟩ := exists_exponent isSign all
    refine ⟨.ofDecimal negative (Numeral.ofDigits (whole ++ behind)) (e - behind.length),
      fun ends => ?_⟩
    simp only [List.append_assoc, List.cons_append, readNumber,
      isWhole.read (endsDigits_point _), readFraction_digits allBehind (endsDigits_mark _),
      exponent ends.digits]

theorem RealText.starts {text : List Char} (real : RealText text) (rest : List Char) :
    StartsWithDigit (text ++ rest) := by
  cases real with
  | fraction isWhole | exponent isWhole =>
    rw [List.append_assoc]
    exact isWhole.starts _
  | both isWhole =>
    rw [List.append_assoc, List.append_assoc]
    exact isWhole.starts _

/-! ## The layout of digits -/

theorem isDigit_of_mem_zeros {c : Char} {zeros : Nat} (member : c ∈ List.replicate zeros '0') :
    Numeral.isDigit c = true := by
  rw [List.eq_of_mem_replicate member]
  decide

theorem Digits.behind_zeros {digits : List Char} (all : Digits digits) (zeros : Nat) :
    Digits (List.replicate zeros '0' ++ digits) where
  nonempty := by simp [all.nonempty]
  digit c member := by
    rcases List.mem_append.mp member with zero | digit
    · exact isDigit_of_mem_zeros zero
    · exact all.digit c digit

theorem digits_padded (width n : Nat) : Digits (padded width n) :=
  (digits_toDigits n).behind_zeros _

theorem whole_singleton {d : Char} (digit : Numeral.isDigit d = true) : Whole [d] where
  nonempty := List.cons_ne_nil _ _
  digit c member := List.mem_singleton.mp member ▸ digit
  leading zero := by rw [Option.some.inj zero]

/-- The digits of a number with zeros behind them, unless the number is itself zero. -/
theorem whole_zeros {n zeros : Nat} (positive : 0 < zeros → 0 < n) :
    Whole (Nat.toDigits 10 n ++ List.replicate zeros '0') := by
  rcases Nat.eq_zero_or_pos zeros with rfl | some
  · rw [List.replicate_zero, List.append_nil]
    exact whole_toDigits n
  · refine ⟨⟨by simp [Nat.toDigits_ne_nil], ?_⟩, ?_⟩
    · intro c member
      rcases List.mem_append.mp member with digit | zero
      · exact Numeral.isDigit_of_mem_toDigits digit
      · exact isDigit_of_mem_zeros zero
    · intro zero
      have head := Numeral.head?_toDigits_ne_zero (positive some)
      cases digits : Nat.toDigits 10 n with
      | nil => exact absurd digits Nat.toDigits_ne_nil
      | cons d tail =>
        rw [digits] at zero head
        exact absurd zero head

/-- The first digits of a number that has more. -/
theorem whole_take {n count : Nat} (some : 0 < count)
    (more : count < (Nat.toDigits 10 n).length) : Whole ((Nat.toDigits 10 n).take count) := by
  have positive : 0 < n := by
    refine Nat.pos_of_ne_zero ?_
    rintro rfl
    rw [Nat.toDigits_zero, List.length_singleton] at more
    omega
  have head := Numeral.head?_toDigits_ne_zero positive
  refine ⟨⟨?_, ?_⟩, ?_⟩
  · rw [Ne, List.take_eq_nil_iff]
    exact not_or.mpr ⟨(Nat.ne_of_gt some), Nat.toDigits_ne_nil⟩
  · exact fun c member => Numeral.isDigit_of_mem_toDigits (List.mem_of_mem_take member)
  · intro zero
    rw [List.head?_take, if_neg (Nat.ne_of_gt some)] at zero
    exact absurd zero head

/-- A layout writes no integer, if what stands in front of its zeros is no zero. -/
theorem real_layout {n : Nat} {p : Int} (positive : 0 < p → p < 16 → 0 < n) :
    RealText (documentFloat.layout n p) := by
  have all := digits_toDigits n
  have count : 0 < (Nat.toDigits 10 n).length := List.length_pos_iff.mpr all.nonempty
  unfold Decimal.FloatFormat.layout
  simp only
  split
  · next positional =>
    have below : p + (Nat.toDigits 10 n).length - 1 < 16 := positional.2
    split
    · next natural =>
      exact .fraction (whole_zeros fun zeros => positive (by omega) (by omega))
        ⟨List.cons_ne_nil _ _, by simp; decide⟩
    · next negative =>
      split
      · next leading =>
        refine .fraction (whole_take (by omega) (by omega)) ⟨?_, ?_⟩
        · rw [Ne, List.drop_eq_nil_iff]
          omega
        · exact fun c member => all.digit c (List.mem_of_mem_drop member)
      · exact .fraction (whole_singleton (d := '0') (by decide)) (all.behind_zeros _)
  · have isSign : ∀ leading : Int, (if leading < 0 then '-' else '+') = '-' ∨
        (if leading < 0 then '-' else '+') = '+' := by
      intro leading
      split
      · exact .inl rfl
      · exact .inr rfl
    split
    · next first second rest digits =>
      rw [digits] at all
      exact .both (whole_singleton (all.digit first List.mem_cons_self))
        ⟨List.cons_ne_nil _ _, fun c member => all.digit c (List.mem_cons_of_mem _ member)⟩
        (isSign _) (digits_padded _ _)
    · exact .exponent (whole_toDigits n) (isSign _) (digits_padded _ _)

/-! ## Written numbers -/

/-- The text of a binary64 number in a document. -/
inductive FloatText : List Char → Prop where
  | nan : FloatText ['N', 'a', 'N']
  | infinity (negative : Bool) :
      FloatText (signed negative ['I', 'n', 'f', 'i', 'n', 'i', 't', 'y'])
  | real (negative : Bool) {text : List Char} (real : RealText text) :
      FloatText (signed negative text)

theorem real_zero : RealText ['0', '.', '0'] := by
  have zero : Whole ['0'] := whole_singleton (by decide)
  exact .fraction zero zero.toDigits

theorem floatText_write (x : Binary64) : FloatText (documentFloat.write x) := by
  have behindSign : ∀ text, (if x.isNegative then ['-'] else []) ++ text =
      signed x.isNegative text := by
    intro text
    cases x.isNegative <;> rfl
  unfold Decimal.FloatFormat.write
  simp only [behindSign]
  split
  · exact .nan
  · split
    · exact .infinity _
    · split
      · exact .real _ real_zero
      · next nonzero =>
        have positive : 0 < x.magnitude := by
          refine Nat.pos_of_ne_zero ?_
          intro zero
          exact nonzero (by rw [Binary64.isZero, zero]; rfl)
        exact .real _ (real_layout (Decimal.shortest_pos positive))

theorem FloatText.read {text : List Char} (written : FloatText text) :
    ∃ x, ∀ {rest}, EndsNumeral rest → readScalar (text ++ rest) = .ok (.float x, rest) := by
  cases written with
  | nan => exact ⟨.nan, fun _ => rfl⟩
  | infinity negative =>
    refine ⟨.infinity negative, fun _ => ?_⟩
    cases negative <;> rfl
  | real negative real =>
    obtain ⟨x, number⟩ := real.read negative
    refine ⟨x, fun ends => ?_⟩
    rw [signed_append]
    exact readScalar_signed (real.starts _) (number ends)

theorem FloatText.eq_cons {text : List Char} (written : FloatText text) :
    ∃ c rest, text = c :: rest ∧ StartsNumber c := by
  cases written with
  | nan => exact ⟨'N', _, rfl, .inr (.inl rfl)⟩
  | infinity negative =>
    cases negative with
    | false => exact ⟨'I', _, rfl, .inr (.inr (.inl rfl))⟩
    | true => exact ⟨'-', _, rfl, .inl rfl⟩
  | real negative real =>
    have starts := real.starts []
    rw [List.append_nil] at starts
    exact startsNumber_signed negative starts

/-- The number that the text of a number is read as. -/
def readBack (x : Binary64) : Binary64 :=
  match readScalar (documentFloat.write x) with
  | .ok (.float y, _) => y
  | _ => x

/-- The text of a number is read as a number, whatever ends it. -/
theorem readScalar_float (x : Binary64) {rest : List Char} (ends : EndsNumeral rest) :
    readScalar (documentFloat.write x ++ rest) = .ok (.float (readBack x), rest) := by
  obtain ⟨y, read⟩ := (floatText_write x).read
  have alone := read EndsNumeral.nil
  rw [List.append_nil] at alone
  have back : readBack x = y := by rw [readBack, alone]
  rw [back]
  exact read ends

end Provisioning.Json
