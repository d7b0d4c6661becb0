import Provisioning.Json.Reader
import Provisioning.Json.Writer

/-!
# Texts read back

A style of writing is *legible* if its marks are the grammar's own with blanks behind
them and each character is spelled by units that the reader joins to that character
again. Both styles are (`Json.compact_legible`, `Json.spaced_legible`), although one
writes a character as it is and the other as one or two escaped units. In a legible
style every text reads back (`Json.readText_text`).
-/

namespace Provisioning.Json

/-! ## One step of the reader inside a text -/

variable {opening n : Nat} {rest : List Char}

/-- Puts units in front of what was read. -/
def prepend (units : List Nat) (read : Reading (List Nat)) : Reading (List Nat) :=
  read.map fun result => (units ++ result.1, result.2)

theorem readUnits_escape {e : Char} (known : unescape? e = some n) (short : e ≠ 'u') :
    readUnits opening ('\\' :: e :: rest) = prepend [n] (readUnits opening rest) := by
  rw [readUnits.eq_def]
  simp only [known]
  cases readUnits opening rest <;> simp [prepend, Except.map]

theorem readUnits_unit {a b c d : Char} (known : unit? a b c d = some n) :
    readUnits opening ('\\' :: 'u' :: a :: b :: c :: d :: rest) =
      prepend [n] (readUnits opening rest) := by
  rw [readUnits.eq_def]
  simp only [known]
  cases readUnits opening rest <;> simp [prepend, Except.map]

theorem readUnits_plain {c : Char} (notQuote : c ≠ '"') (notBackslash : c ≠ '\\')
    (printable : 0x20 ≤ c.toNat) :
    readUnits opening (c :: rest) = prepend [c.toNat] (readUnits opening rest) := by
  rw [readUnits.eq_def]
  simp only [if_neg (Nat.not_lt.mpr printable)]
  cases readUnits opening rest <;> simp [prepend, Except.map]

theorem hexDigits_four (n : Nat) :
    Text.hexDigits 4 n = [Hex.digit (n / 16 / 16 / 16 % 16), Hex.digit (n / 16 / 16 % 16),
      Hex.digit (n / 16 % 16), Hex.digit (n % 16)] := rfl

/-- The escape of a sixteen-bit unit is read as that unit. -/
theorem readUnits_unitEscape (small : n < 0x10000) :
    readUnits opening (unitEscape n ++ rest) = prepend [n] (readUnits opening rest) := by
  refine readUnits_unit ?_
  rw [unit?, Hex.value?_digit (by omega), Hex.value?_digit (by omega),
    Hex.value?_digit (by omega), Hex.value?_digit (by omega)]
  simp only [Option.some.injEq]
  omega

theorem unescape?_of_shortEscape? {c e : Char} (short : shortEscape? c = some e) :
    unescape? e = some c.toNat ∧ e ≠ 'u' := by
  unfold shortEscape? at short
  split at short
  all_goals first
    | (next value => cases short; rw [value]; decide)
    | cases short

theorem readUnits_shortEscape {c e : Char} (short : shortEscape? c = some e) :
    readUnits opening ('\\' :: e :: rest) = prepend [c.toNat] (readUnits opening rest) :=
  readUnits_escape (unescape?_of_shortEscape? short).1 (unescape?_of_shortEscape? short).2

theorem ne_of_shortEscape?_eq_none {c : Char} (long : shortEscape? c = none) :
    c ≠ '"' ∧ c ≠ '\\' := by
  constructor <;> (rintro rfl; revert long; decide)

/-! ## Units join to characters -/

/-- A unit that is no high surrogate stands for itself. -/
theorem ofUnits16_cons {u : Nat} (single : u < 0xd800 ∨ 0xdc00 ≤ u) (more : List Nat) :
    Encoding.ofUnits16 (u :: more) = Utf8.toChar u :: Encoding.ofUnits16 more := by
  cases more with
  | nil => rfl
  | cons v tail =>
    rw [Encoding.ofUnits16, if_neg (by omega)]

theorem ofUnits16_char (c : Char) (more : List Nat) :
    Encoding.ofUnits16 (c.toNat :: more) = c :: Encoding.ofUnits16 more := by
  have valid : c.toNat < 0xd800 ∨ (0xdfff < c.toNat ∧ c.toNat < 0x110000) := c.valid
  rw [ofUnits16_cons (by omega), Utf8.toChar_toNat]

/-- The two surrogates of a character beyond sixteen bits join to it. -/
theorem ofUnits16_surrogates {c : Char} (wide : 0x10000 ≤ c.toNat) (more : List Nat) :
    Encoding.ofUnits16 ((0xd800 + (c.toNat - 0x10000) / 1024) ::
      (0xdc00 + (c.toNat - 0x10000) % 1024) :: more) = c :: Encoding.ofUnits16 more := by
  have valid : c.toNat < 0xd800 ∨ (0xdfff < c.toNat ∧ c.toNat < 0x110000) := c.valid
  have joined : 0x10000 + (0xd800 + (c.toNat - 0x10000) / 1024 - 0xd800) * 1024 +
      (0xdc00 + (c.toNat - 0x10000) % 1024 - 0xdc00) = c.toNat := by omega
  rw [Encoding.ofUnits16, if_pos (by omega), joined, Utf8.toChar_toNat]

/-! ## Legible styles -/

/-- In a style, a character is written so that the reader takes these units for it. -/
structure Style.Spells (style : Style) (c : Char) (units : List Nat) : Prop where
  read : ∀ opening rest, readUnits opening (style.character c ++ rest) =
    prepend units (readUnits opening rest)
  join : ∀ more, Encoding.ofUnits16 (units ++ more) = c :: Encoding.ofUnits16 more

/-- A mark of the grammar with blanks behind it. -/
def IsMark (mark : Char) (text : List Char) : Prop :=
  ∃ blanks, text = mark :: blanks ∧ ∀ c ∈ blanks, c = ' '

/-- A style that the reader understands. -/
structure Style.Legible (style : Style) : Prop where
  separator : IsMark ',' style.separator
  colon : IsMark ':' style.colon
  character : ∀ c, ∃ units, style.Spells c units
  /-- Only visible characters are written. -/
  visible : ∀ c, ∀ d ∈ style.character c, 0x20 ≤ d.toNat

/-- A visible ASCII character or a blank. -/
def IsPlain (c : Char) : Prop :=
  0x20 ≤ c.toNat ∧ c.toNat < 0x7f

instance (c : Char) : Decidable (IsPlain c) :=
  inferInstanceAs (Decidable (0x20 ≤ c.toNat ∧ c.toNat < 0x7f))

theorem IsPlain.ascii {c : Char} (plain : IsPlain c) : c.toNat < 0x80 :=
  Nat.lt_trans plain.2 (by decide)

theorem plain_unitEscape : ∀ d ∈ unitEscape n, IsPlain d := by
  have all : ∀ m ∈ List.range 16, IsPlain (Hex.digit m) := by decide
  have digit : ∀ m, m < 16 → IsPlain (Hex.digit m) :=
    fun m small => all m (List.mem_range.mpr small)
  intro d member
  simp only [unitEscape, hexDigits_four, List.mem_cons, List.not_mem_nil, or_false] at member
  rcases member with rfl | rfl | rfl | rfl | rfl | rfl
  · decide
  · decide
  all_goals exact digit _ (by omega)

theorem plain_shortEscape {c e : Char} (short : shortEscape? c = some e) :
    ∀ d ∈ ['\\', e], IsPlain d := by
  intro d member
  unfold shortEscape? at short
  simp only [List.mem_cons, List.not_mem_nil, or_false] at member
  rcases member with rfl | rfl
  · decide
  · split at short <;> cases short <;> decide

theorem compact_spells (c : Char) : compact.Spells c [c.toNat] where
  read opening rest := by
    show readUnits opening (rawCharacter c ++ rest) = _
    unfold rawCharacter
    split
    · next e short => exact readUnits_shortEscape short
    · next long =>
      split
      · next control => exact readUnits_unitEscape (by omega)
      · next printable =>
        obtain ⟨notQuote, notBackslash⟩ := ne_of_shortEscape?_eq_none long
        exact readUnits_plain notQuote notBackslash (by omega)
  join more := ofUnits16_char c more

theorem compact_legible : compact.Legible where
  separator := ⟨[], rfl, by simp⟩
  colon := ⟨[], rfl, by simp⟩
  character c := ⟨[c.toNat], compact_spells c⟩
  visible c := by
    show ∀ d ∈ rawCharacter c, 0x20 ≤ d.toNat
    unfold rawCharacter
    split
    · next e short => exact fun d member => (plain_shortEscape short d member).1
    · split
      · exact fun d member => (plain_unitEscape d member).1
      · next printable =>
        intro d member
        rcases List.mem_singleton.mp member with rfl
        omega

/-- The units by which the ASCII style spells a character. -/
def asciiUnits (c : Char) : List Nat :=
  if c.toNat < 0x10000 then [c.toNat]
  else [0xd800 + (c.toNat - 0x10000) / 1024, 0xdc00 + (c.toNat - 0x10000) % 1024]

theorem shortEscape?_of_wide {c : Char} (wide : ¬ c.toNat < 0x10000) :
    shortEscape? c = none := by
  unfold shortEscape?
  split
  all_goals first
    | omega
    | rfl

theorem spaced_spells (c : Char) : spaced.Spells c (asciiUnits c) where
  read opening rest := by
    show readUnits opening (asciiCharacter c ++ rest) = _
    have valid : c.toNat < 0xd800 ∨ (0xdfff < c.toNat ∧ c.toNat < 0x110000) := c.valid
    by_cases narrow : c.toNat < 0x10000
    · rw [asciiUnits, if_pos narrow]
      unfold asciiCharacter
      split
      · next e short => exact readUnits_shortEscape short
      · next long =>
        simp only
        split
        · next plain =>
          obtain ⟨notQuote, notBackslash⟩ := ne_of_shortEscape?_eq_none long
          exact readUnits_plain notQuote notBackslash plain.1
        · exact readUnits_unitEscape narrow
    · rw [asciiUnits, if_neg narrow]
      unfold asciiCharacter
      rw [shortEscape?_of_wide narrow]
      simp only
      rw [if_neg (by omega), if_neg narrow, List.append_assoc,
        readUnits_unitEscape (by omega), readUnits_unitEscape (by omega)]
      cases readUnits opening rest <;> simp [prepend, Except.map]
  join more := by
    by_cases narrow : c.toNat < 0x10000
    · rw [asciiUnits, if_pos narrow]
      exact ofUnits16_char c more
    · rw [asciiUnits, if_neg narrow]
      exact ofUnits16_surrogates (by omega) more

/-- The ASCII style escapes whatever is not plain. -/
theorem spaced_plain (c : Char) : ∀ d ∈ spaced.character c, IsPlain d := by
  show ∀ d ∈ asciiCharacter c, IsPlain d
  unfold asciiCharacter
  split
  · next e short => exact plain_shortEscape short
  simp only
  split
  · next plain =>
    intro d member
    rcases List.mem_singleton.mp member with rfl
    exact plain
  split
  · exact plain_unitEscape
  · intro d member
    rcases List.mem_append.mp member with high | low
    · exact plain_unitEscape d high
    · exact plain_unitEscape d low

theorem spaced_legible : spaced.Legible where
  separator := ⟨[' '], rfl, by simp⟩
  colon := ⟨[' '], rfl, by simp⟩
  character c := ⟨asciiUnits c, spaced_spells c⟩
  visible c d member := (spaced_plain c d member).1

/-! ## Whole texts -/

theorem readUnits_characters {style : Style} (legible : style.Legible) (opening : Nat)
    (text rest : List Char) :
    ∃ units, readUnits opening (text.flatMap style.character ++ '"' :: rest) =
        .ok (units, rest) ∧ Encoding.ofUnits16 units = text := by
  induction text with
  | nil => exact ⟨[], by simp [readUnits], rfl⟩
  | cons c tail ih =>
    obtain ⟨units, read, join⟩ := ih
    obtain ⟨front, spells⟩ := legible.character c
    refine ⟨front ++ units, ?_, ?_⟩
    · rw [List.flatMap_cons, List.append_assoc, spells.read, read]
      rfl
    · rw [spells.join, join]

/-- A text written in a legible style, its opening quote taken, reads back. -/
theorem readText_text {style : Style} (legible : style.Legible) (value : String)
    (rest : List Char) :
    readText (value.toList.flatMap style.character ++ '"' :: rest) = .ok (value, rest) := by
  obtain ⟨units, read, join⟩ := readUnits_characters legible
    ((value.toList.flatMap style.character ++ '"' :: rest).length + 1) value.toList rest
  rw [readText, read]
  simp only [join, String.ofList_toList]

end Provisioning.Json
