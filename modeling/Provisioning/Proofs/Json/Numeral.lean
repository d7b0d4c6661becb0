import Provisioning.Json.Reader

/-!
# Integers read back

The decimal digits of an integer, with whatever may follow a numeral behind them, are
read as that integer (`Json.readScalar_intChars`). A numeral ends where neither a
digit nor a point nor the mark of an exponent stands.
-/

namespace Provisioning

namespace Numeral

theorem isDigit_of_mem_toDigits {n : Nat} {c : Char} (member : c ∈ Nat.toDigits 10 n) :
    isDigit c = true := by
  have digit := Nat.isDigit_of_mem_toDigits (by decide) (by decide) member
  simpa [Char.isDigit, isDigit, UInt32.le_iff_toNat_le] using digit

theorem ofDigits_toDigits (n : Nat) : ofDigits (Nat.toDigits 10 n) = n :=
  calc ofDigits (Nat.toDigits 10 n)
      = Nat.ofDigitChars 10 (Nat.toDigits 10 n) 0 := by rw [Nat.ofDigitChars_eq_foldl]; rfl
    _ = n := Nat.ofDigitChars_ten_toDigits

/-- A positive number does not begin with a zero. -/
theorem head?_toDigits_ne_zero {n : Nat} (positive : 0 < n) :
    (Nat.toDigits 10 n).head? ≠ some '0' := by
  induction n using Nat.strongRecOn with
  | ind n ih =>
    by_cases small : n < 10
    · have all : ∀ d ∈ List.range 10, 0 < d → Nat.digitChar d ≠ '0' := by decide
      rw [Nat.toDigits_of_lt_base small]
      simpa using all n (List.mem_range.mpr small) positive
    · rw [Nat.toDigits_of_base_le (by decide) (by omega)]
      have shorter := ih (n / 10) (by omega) (by omega)
      cases digits : Nat.toDigits 10 (n / 10) with
      | nil => exact absurd digits Nat.toDigits_ne_nil
      | cons d rest =>
        rw [digits] at shorter
        exact shorter

end Numeral

namespace Json

/-- What may stand behind a numeral: nothing that would lengthen it. -/
def EndsNumeral (rest : List Char) : Prop :=
  ∀ c ∈ rest.head?, Numeral.isDigit c = false ∧ c ≠ '.' ∧ c ≠ 'e' ∧ c ≠ 'E'

theorem EndsNumeral.nil : EndsNumeral [] := by
  intro c member
  cases member

theorem EndsNumeral.cons {c : Char} {rest : List Char}
    (ends : Numeral.isDigit c = false ∧ c ≠ '.' ∧ c ≠ 'e' ∧ c ≠ 'E') :
    EndsNumeral (c :: rest) := by
  intro d member
  cases member
  exact ends

/-- What may stand behind a run of digits: no further digit. -/
def EndsDigits (rest : List Char) : Prop :=
  ∀ c ∈ rest.head?, Numeral.isDigit c = false

theorem EndsNumeral.digits {rest : List Char} (ends : EndsNumeral rest) : EndsDigits rest :=
  fun c member => (ends c member).1

theorem EndsDigits.cons {c : Char} {rest : List Char} (ends : Numeral.isDigit c = false) :
    EndsDigits (c :: rest) := by
  intro d member
  cases member
  exact ends

/-- Digits, one at least. -/
structure Digits (text : List Char) : Prop where
  nonempty : text ≠ []
  digit : ∀ c ∈ text, Numeral.isDigit c = true

theorem Digits.run {digits rest : List Char} (all : Digits digits) (ends : EndsDigits rest) :
    (digits ++ rest).takeWhile Numeral.isDigit = digits ∧
      (digits ++ rest).dropWhile Numeral.isDigit = rest := by
  rw [List.takeWhile_append_of_pos all.digit, List.dropWhile_append_of_pos all.digit]
  cases rest with
  | nil => simp
  | cons c tail => simp [ends c rfl]

theorem digits_toDigits (n : Nat) : Digits (Nat.toDigits 10 n) :=
  ⟨Nat.toDigits_ne_nil, fun _ member => Numeral.isDigit_of_mem_toDigits member⟩

theorem readFraction_of_ends {rest : List Char} (ends : EndsNumeral rest) :
    readFraction rest = none := by
  unfold readFraction
  split
  · exact absurd rfl (ends '.' rfl).2.1
  · rfl

theorem readExponent_of_ends {rest : List Char} (ends : EndsNumeral rest) :
    readExponent rest = none := by
  unfold readExponent
  split
  · next mark tail =>
    obtain ⟨_, _, lower, upper⟩ := ends mark rfl
    rw [if_neg (by simp [lower, upper])]
  · rfl

/-- The digits that may stand before a point: a zero alone, or any with no zero first. -/
structure Whole (text : List Char) : Prop extends Digits text where
  leading : text.head? = some '0' → text = ['0']

theorem whole_toDigits (n : Nat) : Whole (Nat.toDigits 10 n) where
  toDigits := digits_toDigits n
  leading zero := by
    rcases Nat.eq_zero_or_pos n with rfl | positive
    · rfl
    · exact absurd zero (Numeral.head?_toDigits_ne_zero positive)

theorem Whole.read {digits rest : List Char} (whole : Whole digits) (ends : EndsDigits rest) :
    readWhole (digits ++ rest) = some (digits, rest) := by
  obtain ⟨taken, left⟩ := whole.run ends
  cases digits with
  | nil => exact absurd rfl whole.nonempty
  | cons d ds =>
    by_cases zero : d = '0'
    · subst zero
      cases whole.leading rfl
      rfl
    · have digit : Numeral.isDigit d = true := whole.digit d List.mem_cons_self
      rw [List.cons_append] at taken left ⊢
      rw [readWhole.eq_def]
      split
      · next text =>
        cases text
        exact absurd rfl zero
      · next text =>
        cases text
        rw [if_pos digit, taken, left]
      · next text => cases text

theorem readNumber_toDigits (negative : Bool) (n : Nat) {rest : List Char}
    (ends : EndsNumeral rest) :
    readNumber negative (Nat.toDigits 10 n ++ rest) =
      some (.int (if negative then -(n : Int) else n), rest) := by
  rw [readNumber, (whole_toDigits n).read ends.digits]
  simp only [readFraction_of_ends ends, readExponent_of_ends ends, Numeral.ofDigits_toDigits]

/-! ## Signed numerals -/

/-- A text behind the sign of what is negative. -/
def signed (negative : Bool) (text : List Char) : List Char :=
  if negative then '-' :: text else text

theorem signed_append (negative : Bool) (text rest : List Char) :
    signed negative text ++ rest = signed negative (text ++ rest) := by
  cases negative <;> rfl

theorem intChars_eq_signed (n : Int) :
    Numeral.intChars n = signed (n < 0) (Nat.toDigits 10 n.natAbs) := by
  cases n with
  | ofNat n => rfl
  | negSucc n =>
    rw [signed, if_pos (decide_eq_true (Int.negSucc_lt_zero n))]
    rfl

/-- A text that begins with a digit. -/
def StartsWithDigit (text : List Char) : Prop :=
  ∃ d tail, text = d :: tail ∧ Numeral.isDigit d = true

theorem Digits.starts {digits : List Char} (all : Digits digits) (rest : List Char) :
    StartsWithDigit (digits ++ rest) := by
  cases digits with
  | nil => exact absurd rfl all.nonempty
  | cons d tail => exact ⟨d, tail ++ rest, rfl, all.digit d List.mem_cons_self⟩

/-- A text that begins with a digit is no word, so it is read as a numeral. -/
theorem readScalar_signed {negative : Bool} {text : List Char} {result : Json × List Char}
    (starts : StartsWithDigit text) (number : readNumber negative text = some result) :
    readScalar (signed negative text) = .ok result := by
  obtain ⟨d, tail, rfl, digit⟩ := starts
  cases negative with
  | false =>
    show readScalar (d :: tail) = _
    unfold readScalar
    split
    all_goals first
      | (next same => cases same; exact absurd digit (by decide))
      | rw [number]
  | true =>
    show readScalar ('-' :: d :: tail) = _
    unfold readScalar
    split
    case h_6 same => cases same; exact absurd digit (by decide)
    case h_7 rest _ same => cases same; rw [number]
    case h_8 notMinus => exact absurd rfl (notMinus _)
    all_goals (next same => cases same)

/-- A written integer reads back. -/
theorem readScalar_intChars (n : Int) {rest : List Char} (ends : EndsNumeral rest) :
    readScalar (Numeral.intChars n ++ rest) = .ok (.int n, rest) := by
  have value : (if decide (n < 0) = true then -(n.natAbs : Int) else n.natAbs) = n := by
    simp only [decide_eq_true_eq]
    split <;> omega
  have number := readNumber_toDigits (n < 0) n.natAbs ends
  rw [value] at number
  rw [intChars_eq_signed, signed_append]
  exact readScalar_signed ((digits_toDigits _).starts rest) number

/-- No two integers have the same digits. -/
theorem intChars_injective : Function.Injective Numeral.intChars := by
  intro a b same
  have read := readScalar_intChars a .nil
  rw [same, readScalar_intChars b .nil] at read
  cases read
  rfl

/-- What the text of a number may begin with: a sign, a digit, or a word's first letter. -/
def StartsNumber (c : Char) : Prop :=
  c = '-' ∨ c = 'N' ∨ c = 'I' ∨ Numeral.isDigit c = true

theorem startsNumber_signed (negative : Bool) {text : List Char} (starts : StartsWithDigit text) :
    ∃ c tail, signed negative text = c :: tail ∧ StartsNumber c := by
  obtain ⟨d, tail, rfl, digit⟩ := starts
  cases negative with
  | false => exact ⟨d, tail, rfl, .inr (.inr (.inr digit))⟩
  | true => exact ⟨'-', d :: tail, rfl, .inl rfl⟩

theorem intChars_eq_cons (n : Int) :
    ∃ c rest, Numeral.intChars n = c :: rest ∧ StartsNumber c := by
  have starts := (digits_toDigits n.natAbs).starts []
  rw [List.append_nil] at starts
  rw [intChars_eq_signed]
  exact startsNumber_signed _ starts

end Json

end Provisioning
