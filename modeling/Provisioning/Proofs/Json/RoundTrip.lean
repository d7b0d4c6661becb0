import Provisioning.Proofs.Json.Float
import Provisioning.Proofs.Json.Text
import Provisioning.Proofs.Text.Utf8

/-!
# Documents read back

In a legible style every document reads back from its text: as itself, but that a
binary64 number is what its text is read as and that of equal keys in an object the last
one has its say (`Json.reread`, `Json.read_write`). The bytes of the text are recognised
as UTF-8 (`Json.readBytes_write`). A document is *regular* if it holds no binary64 number
and no object binds a key twice; such a document reads back as it is
(`Json.reread_of_regular`). The reader has fuel: two units for each character of a value
are enough, whatever follows the value. A text keeps to the characters that its style spells
texts with (`Json.within_write`): in the plain style these are visible ASCII characters and
blanks.
-/

namespace Provisioning.Json

/-- The keys of members, in order. -/
def keysOf (fields : List (String × Json)) : List String :=
  fields.map Prod.fst

mutual

/-- No binary64 number, and no key twice, at any depth. -/
def Regular : Json → Prop
  | .float _ => False
  | .arr items => RegularItems items
  | .obj fields => (keysOf fields).Nodup ∧ RegularFields fields
  | _ => True

def RegularItems : List Json → Prop
  | [] => True
  | item :: rest => item.Regular ∧ RegularItems rest

def RegularFields : List (String × Json) → Prop
  | [] => True
  | (_, value) :: rest => value.Regular ∧ RegularFields rest

end

theorem regularItems_iff {items : List Json} :
    RegularItems items ↔ ∀ item ∈ items, item.Regular := by
  induction items with
  | nil => simp [RegularItems]
  | cons item rest ih => simp [RegularItems, ih]

theorem regularFields_iff {fields : List (String × Json)} :
    RegularFields fields ↔ ∀ field ∈ fields, field.2.Regular := by
  induction fields with
  | nil => simp [RegularFields]
  | cons field rest ih => simp [RegularFields, ih]

/-! ## Members -/

theorem put_of_not_mem {key : String} {fields : List (String × Json)}
    (fresh : key ∉ keysOf fields) (value : Json) :
    put key value fields = fields ++ [(key, value)] := by
  induction fields with
  | nil => rfl
  | cons field rest ih =>
    simp only [keysOf, List.map_cons, List.mem_cons, not_or] at fresh
    rw [put, if_neg (Ne.symm fresh.1), ih fresh.2, List.cons_append]

theorem foldl_put_of_nodup {fields bound : List (String × Json)}
    (distinct : (keysOf (bound ++ fields)).Nodup) :
    fields.foldl (fun all member => put member.1 member.2 all) bound = bound ++ fields := by
  induction fields generalizing bound with
  | nil => rw [List.append_nil]; rfl
  | cons field rest ih =>
    have fresh : field.1 ∉ keysOf bound := by
      intro member
      rw [keysOf, List.map_append, List.map_cons, List.nodup_append] at distinct
      exact distinct.2.2 _ member _ List.mem_cons_self rfl
    rw [List.foldl_cons, put_of_not_mem fresh, ih (by simpa using distinct),
      List.append_assoc, List.singleton_append]

/-- Distinct keys are taken over as they stand. -/
theorem ofMembers_of_nodup {fields : List (String × Json)} (distinct : (keysOf fields).Nodup) :
    ofMembers fields = fields :=
  foldl_put_of_nodup distinct

/-! ## What a written value begins with -/

theorem skipSpace_solid {c : Char} (solid : isSpace c = false) (rest : List Char) :
    skipSpace (c :: rest) = c :: rest := by
  rw [skipSpace, List.dropWhile_cons_of_neg (by simp [solid])]

theorem skipSpace_blanks {blanks : List Char} (all : ∀ c ∈ blanks, c = ' ')
    (rest : List Char) : skipSpace (blanks ++ rest) = skipSpace rest := by
  refine List.dropWhile_append_of_pos ?_
  intro c member
  rw [all c member]
  rfl

/-- The first character of a written value is a visible ASCII character, and neither a
mark nor a closing bracket. -/
structure Opens (c : Char) : Prop where
  solid : isSpace c = false
  ascii : c.toNat < 0x80
  bracket : c ≠ ']'

theorem opens_number {c : Char} (starts : StartsNumber c) : Opens c := by
  rcases starts with rfl | rfl | rfl | digit
  · exact ⟨by decide, by decide, by decide⟩
  · exact ⟨by decide, by decide, by decide⟩
  · exact ⟨by decide, by decide, by decide⟩
  · simp only [Numeral.isDigit, Bool.and_eq_true, decide_eq_true_eq] at digit
    refine ⟨?_, by omega, ?_⟩
    · have blank : c ≠ ' ' ∧ c ≠ '\t' ∧ c ≠ '\n' ∧ c ≠ '\r' := by
        refine ⟨?_, ?_, ?_, ?_⟩ <;> (rintro rfl; revert digit; decide)
      simp [isSpace, blank]
    · rintro rfl
      revert digit
      decide

theorem write_eq_cons (style : Style) (value : Json) :
    ∃ c tail, write style value = c :: tail ∧ Opens c := by
  cases value with
  | null => exact ⟨'n', _, rfl, by decide, by decide, by decide⟩
  | bool b => cases b <;> exact ⟨_, _, rfl, by decide, by decide, by decide⟩
  | int n =>
    obtain ⟨c, tail, text, starts⟩ := intChars_eq_cons n
    exact ⟨c, tail, text, opens_number starts⟩
  | float x =>
    obtain ⟨c, tail, text, starts⟩ := (floatText_write x).eq_cons
    exact ⟨c, tail, text, opens_number starts⟩
  | str s => exact ⟨'"', _, rfl, by decide, by decide, by decide⟩
  | arr items => exact ⟨'[', _, rfl, by decide, by decide, by decide⟩
  | obj fields => exact ⟨'{', _, rfl, by decide, by decide, by decide⟩

theorem skipSpace_write (style : Style) (value : Json) (rest : List Char) :
    skipSpace (write style value ++ rest) = write style value ++ rest := by
  obtain ⟨c, tail, text, opens⟩ := write_eq_cons style value
  rw [text, List.cons_append, skipSpace_solid opens.solid]

/-! ## One step of the reader -/

variable {fuel : Nat} {item : Json} {items : List Json} {rest text : List Char}

theorem readValue_scalar {value : Json} (scalar : readScalar text = .ok (value, rest))
    (opening : ∀ c ∈ text.head?, c ≠ '"' ∧ c ≠ '[' ∧ c ≠ '{') :
    readValue (fuel + 1) text = .ok (value, rest) := by
  rw [readValue.eq_def]
  simp only
  split
  · exact absurd rfl (opening '"' rfl).1
  · exact absurd rfl (opening '[' rfl).2.1
  · exact absurd rfl (opening '{' rfl).2.2
  · exact scalar

theorem readValue_number {value : Json} (starts : ∃ c tail, text = c :: tail ∧ StartsNumber c)
    (scalar : readScalar (text ++ rest) = .ok (value, rest)) :
    readValue (fuel + 1) (text ++ rest) = .ok (value, rest) := by
  obtain ⟨c, tail, rfl, starts⟩ := starts
  refine readValue_scalar scalar ?_
  rintro d ⟨⟩
  rcases starts with rfl | rfl | rfl | digit
  · decide
  · decide
  · decide
  · refine ⟨?_, ?_, ?_⟩ <;> (rintro rfl; revert digit; decide)

theorem readItems_last (read : readValue fuel text = .ok (item, ']' :: rest)) :
    readItems (fuel + 1) text = .ok ([item], rest) := by
  rw [readItems]
  simp only [read, skipSpace_solid (show isSpace ']' = false by decide)]

theorem readItems_more {mark more : List Char} (isMark : IsMark ',' mark)
    (read : readValue fuel text = .ok (item, mark ++ more))
    (solid : skipSpace more = more) (others : readItems fuel more = .ok (items, rest)) :
    readItems (fuel + 1) text = .ok (item :: items, rest) := by
  obtain ⟨blanks, rfl, all⟩ := isMark
  rw [readItems]
  simp only [read, List.cons_append, skipSpace_solid (show isSpace ',' = false by decide),
    skipSpace_blanks all, solid, others]

section Members

variable {key : String} {value : Json} {members : List (String × Json)} {colon more : List Char}

theorem readMembers_last {keyText : List Char} (isMark : IsMark ':' colon)
    (readKey : readText keyText = .ok (key, colon ++ text))
    (solid : skipSpace text = text) (read : readValue fuel text = .ok (value, '}' :: rest)) :
    readMembers (fuel + 1) ('"' :: keyText) = .ok ([(key, value)], rest) := by
  obtain ⟨blanks, rfl, all⟩ := isMark
  rw [readMembers]
  simp only [readKey, List.cons_append, skipSpace_solid (show isSpace ':' = false by decide),
    skipSpace_blanks all, solid, read, skipSpace_solid (show isSpace '}' = false by decide)]

theorem readMembers_more {keyText mark : List Char} (isColon : IsMark ':' colon)
    (isMark : IsMark ',' mark) (readKey : readText keyText = .ok (key, colon ++ text))
    (solid : skipSpace text = text) (read : readValue fuel text = .ok (value, mark ++ more))
    (solidMore : skipSpace more = more)
    (others : readMembers fuel more = .ok (members, rest)) :
    readMembers (fuel + 1) ('"' :: keyText) = .ok ((key, value) :: members, rest) := by
  obtain ⟨blanks, rfl, all⟩ := isColon
  obtain ⟨blanks, rfl, allMore⟩ := isMark
  rw [readMembers]
  simp only [readKey, List.cons_append, skipSpace_solid (show isSpace ':' = false by decide),
    skipSpace_blanks all, solid, read, skipSpace_solid (show isSpace ',' = false by decide),
    skipSpace_blanks allMore, solidMore, others]

end Members

/-! ## Whole values -/

theorem EndsNumeral.mark {mark : List Char} (isMark : IsMark ',' mark) (rest : List Char) :
    EndsNumeral (mark ++ rest) := by
  obtain ⟨blanks, rfl, -⟩ := isMark
  exact .cons (by decide)

theorem length_pos_of_isMark {c : Char} {mark : List Char} (isMark : IsMark c mark) :
    0 < mark.length := by
  obtain ⟨blanks, rfl, -⟩ := isMark
  exact Nat.succ_pos _

theorem writeItems_eq_cons (style : Style) (item : Json) (items : List Json) :
    ∃ c tail, writeItems style (item :: items) = c :: tail ∧ Opens c := by
  obtain ⟨c, tail, written, opens⟩ := write_eq_cons style item
  cases items with
  | nil => exact ⟨c, tail, written, opens⟩
  | cons next rest =>
    refine ⟨c, tail ++ style.separator ++ writeItems style (next :: rest), ?_, opens⟩
    rw [writeItems, written, List.cons_append, List.cons_append]

theorem writeFields_eq_cons (style : Style) (field : String × Json)
    (fields : List (String × Json)) :
    ∃ tail, writeFields style (field :: fields) = '"' :: tail := by
  obtain ⟨key, value⟩ := field
  cases fields with
  | nil => exact ⟨_, by rw [writeFields, Style.text]; rfl⟩
  | cons next rest => exact ⟨_, by rw [writeFields, Style.text]; rfl⟩

theorem exists_fuel {style : Style} {value : Json} {fuel : Nat}
    (enough : 2 * (write style value).length ≤ fuel) : ∃ less, fuel = less + 1 := by
  obtain ⟨c, tail, written, -⟩ := write_eq_cons style value
  rw [written, List.length_cons] at enough
  exact ⟨fuel - 1, by omega⟩

mutual

/-- What the text of a value is read as. -/
def reread : Json → Json
  | .float x => .float (readBack x)
  | .arr items => .arr (rereadItems items)
  | .obj fields => .obj (ofMembers (rereadFields fields))
  | other => other

def rereadItems : List Json → List Json
  | [] => []
  | item :: rest => item.reread :: rereadItems rest

def rereadFields : List (String × Json) → List (String × Json)
  | [] => []
  | (key, value) :: rest => (key, value.reread) :: rereadFields rest

end

mutual

/-- A value reads back, whatever stands behind it that does not go on with a numeral. -/
theorem readValue_write {style : Style} (legible : style.Legible) :
    ∀ (value : Json) (fuel : Nat) (rest : List Char),
      2 * (write style value).length ≤ fuel → EndsNumeral rest →
      readValue fuel (write style value ++ rest) = .ok (value.reread, rest)
  | .null, fuel, rest, enough, _ => by
    obtain ⟨fuel, rfl⟩ := exists_fuel enough
    exact readValue_scalar rfl (by rintro c ⟨⟩; decide)
  | .bool true, fuel, rest, enough, _ => by
    obtain ⟨fuel, rfl⟩ := exists_fuel enough
    exact readValue_scalar rfl (by rintro c ⟨⟩; decide)
  | .bool false, fuel, rest, enough, _ => by
    obtain ⟨fuel, rfl⟩ := exists_fuel enough
    exact readValue_scalar rfl (by rintro c ⟨⟩; decide)
  | .int n, fuel, rest, enough, ends => by
    obtain ⟨fuel, rfl⟩ := exists_fuel enough
    exact readValue_number (intChars_eq_cons n) (readScalar_intChars n ends)
  | .float x, fuel, rest, enough, ends => by
    obtain ⟨fuel, rfl⟩ := exists_fuel enough
    exact readValue_number (floatText_write x).eq_cons (readScalar_float x ends)
  | .str s, fuel, rest, enough, _ => by
    obtain ⟨fuel, rfl⟩ := exists_fuel enough
    rw [write, Style.text, List.cons_append, List.cons_append, List.append_assoc, readValue]
    simp only [List.singleton_append, readText_text legible, reread]
  | .arr [], fuel, rest, enough, _ => by
    obtain ⟨fuel, rfl⟩ := exists_fuel enough
    show readValue (fuel + 1) ('[' :: ']' :: rest) = _
    rw [readValue]
    simp only [skipSpace_solid (show isSpace ']' = false by decide), reread, rereadItems]
  | .arr (item :: items), fuel, rest, enough, _ => by
    rw [write, List.cons_append, List.length_cons, List.length_append, List.length_singleton]
      at enough
    obtain ⟨fuel, rfl⟩ : ∃ less, fuel = less + 1 := ⟨fuel - 1, by omega⟩
    have inside := readItems_writeItems legible (item :: items) fuel rest (List.cons_ne_nil _ _)
      (by omega)
    obtain ⟨c, tail, written, opens⟩ := writeItems_eq_cons style item items
    rw [write, List.cons_append, List.cons_append, List.append_assoc, List.singleton_append,
      readValue]
    rw [written, List.cons_append] at inside ⊢
    simp only [skipSpace_solid opens.solid]
    split
    · next closing => cases closing; exact absurd rfl opens.bracket
    · rw [inside]
      rfl
  | .obj [], fuel, rest, enough, _ => by
    obtain ⟨fuel, rfl⟩ := exists_fuel enough
    show readValue (fuel + 1) ('{' :: '}' :: rest) = _
    rw [readValue]
    simp only [skipSpace_solid (show isSpace '}' = false by decide)]
    rfl
  | .obj (field :: fields), fuel, rest, enough, _ => by
    rw [write, List.cons_append, List.length_cons, List.length_append, List.length_singleton]
      at enough
    obtain ⟨fuel, rfl⟩ : ∃ less, fuel = less + 1 := ⟨fuel - 1, by omega⟩
    have inside := readMembers_writeFields legible (field :: fields) fuel rest (List.cons_ne_nil _ _)
      (by omega)
    obtain ⟨tail, written⟩ := writeFields_eq_cons style field fields
    rw [write, List.cons_append, List.cons_append, List.append_assoc, List.singleton_append,
      readValue]
    rw [written, List.cons_append] at inside ⊢
    simp only [skipSpace_solid (show isSpace '"' = false by decide)]
    split
    · next closing => cases closing
    · rw [inside]
      rfl

theorem readItems_writeItems {style : Style} (legible : style.Legible) :
    ∀ (items : List Json) (fuel : Nat) (rest : List Char), items ≠ [] →
      2 * (writeItems style items).length + 1 ≤ fuel →
      readItems fuel (writeItems style items ++ ']' :: rest) = .ok (rereadItems items, rest)
  | [], _, _, nonempty, _ => absurd rfl nonempty
  | [item], fuel, rest, _, enough => by
    rw [writeItems] at enough ⊢
    obtain ⟨fuel, rfl⟩ : ∃ less, fuel = less + 1 := ⟨fuel - 1, by omega⟩
    exact readItems_last (readValue_write legible item fuel _ (by omega) (.cons (by decide)))
  | item :: next :: items, fuel, rest, _, enough => by
    have mark := length_pos_of_isMark legible.separator
    rw [writeItems, List.length_append, List.length_append] at enough
    obtain ⟨fuel, rfl⟩ : ∃ less, fuel = less + 1 := ⟨fuel - 1, by omega⟩
    obtain ⟨c, tail, written, opens⟩ := writeItems_eq_cons style next items
    have others := readItems_writeItems legible (next :: items) fuel rest (List.cons_ne_nil _ _)
      (by omega)
    rw [writeItems, List.append_assoc, List.append_assoc]
    refine readItems_more legible.separator
      (readValue_write legible item fuel _ (by omega) (.mark legible.separator _)) ?_ others
    rw [written, List.cons_append, skipSpace_solid opens.solid]

theorem readMembers_writeFields {style : Style} (legible : style.Legible) :
    ∀ (fields : List (String × Json)) (fuel : Nat) (rest : List Char), fields ≠ [] →
      2 * (writeFields style fields).length + 1 ≤ fuel →
      readMembers fuel (writeFields style fields ++ '}' :: rest) =
        .ok (rereadFields fields, rest)
  | [], _, _, nonempty, _ => absurd rfl nonempty
  | [(key, value)], fuel, rest, _, enough => by
    rw [writeFields, Style.text] at enough ⊢
    simp only [List.cons_append, List.length_cons, List.length_append] at enough
    obtain ⟨fuel, rfl⟩ : ∃ less, fuel = less + 1 := ⟨fuel - 1, by omega⟩
    simp only [List.cons_append, List.append_assoc]
    exact readMembers_last legible.colon (readText_text legible key _)
      (skipSpace_write style value _)
      (readValue_write legible value fuel _ (by omega) (.cons (by decide)))
  | (key, value) :: next :: fields, fuel, rest, _, enough => by
    have mark := length_pos_of_isMark legible.separator
    rw [writeFields, Style.text] at enough ⊢
    simp only [List.cons_append, List.length_cons, List.length_append] at enough
    obtain ⟨fuel, rfl⟩ : ∃ less, fuel = less + 1 := ⟨fuel - 1, by omega⟩
    obtain ⟨tail, written⟩ := writeFields_eq_cons style next fields
    have others := readMembers_writeFields legible (next :: fields) fuel rest
      (List.cons_ne_nil _ _) (by omega)
    simp only [List.cons_append, List.append_assoc]
    refine readMembers_more legible.colon legible.separator (readText_text legible key _)
      (skipSpace_write style value _)
      (readValue_write legible value fuel _ (by omega) (.mark legible.separator _)) ?_ others
    rw [written, List.cons_append, skipSpace_solid (show isSpace '"' = false by decide)]

end

/-- A text in a legible style is read as the document that it was written for, its numbers
read back. -/
theorem read_write {style : Style} (legible : style.Legible) (value : Json) :
    read (write style value) = .ok value.reread := by
  have whole := readValue_write legible value (2 * (write style value).length + 2) []
    (by omega) .nil
  rw [List.append_nil] at whole
  have start := skipSpace_write style value []
  rw [List.append_nil] at start
  rw [read, start, whole]
  rfl

mutual

/-- A regular document reads back as it is. -/
theorem reread_of_regular : ∀ value : Json, value.Regular → value.reread = value
  | .null, _ | .bool _, _ | .int _, _ | .str _, _ => rfl
  | .float _, regular => regular.elim
  | .arr items, regular => congrArg Json.arr (rereadItems_of_regular items regular)
  | .obj fields, regular => by
    rw [reread, rereadFields_of_regular fields regular.2, ofMembers_of_nodup regular.1]

theorem rereadItems_of_regular :
    ∀ items : List Json, RegularItems items → rereadItems items = items
  | [], _ => rfl
  | item :: rest, regular => by
    rw [rereadItems, reread_of_regular item regular.1, rereadItems_of_regular rest regular.2]

theorem rereadFields_of_regular :
    ∀ fields : List (String × Json), RegularFields fields → rereadFields fields = fields
  | [], _ => rfl
  | (key, value) :: rest, regular => by
    rw [rereadFields, reread_of_regular value regular.1, rereadFields_of_regular rest regular.2]

end

/-! ## Characters of a written document -/

/-- Only characters of a class stand in the text. -/
def Within (allowed : Char → Prop) (text : List Char) : Prop :=
  ∀ c ∈ text, allowed c

section Within

variable {allowed : Char → Prop} {text more : List Char}

theorem Within.append (within : Within allowed text) (others : Within allowed more) :
    Within allowed (text ++ more) := by
  intro c member
  rcases List.mem_append.mp member with inside | inside
  · exact within c inside
  · exact others c inside

theorem Within.cons {c : Char} (first : allowed c) (within : Within allowed text) :
    Within allowed (c :: text) := by
  intro d member
  rcases List.mem_cons.mp member with rfl | inside
  · exact first
  · exact within d inside

theorem Within.mono {wider : Char → Prop} (within : Within allowed text)
    (widens : ∀ c, allowed c → wider c) : Within wider text :=
  fun c member => widens c (within c member)

end Within

theorem Digits.plain {digits : List Char} (all : Digits digits) : Within IsPlain digits := by
  intro c member
  have digit := all.digit c member
  simp only [Numeral.isDigit, Bool.and_eq_true, decide_eq_true_eq] at digit
  exact ⟨by omega, by omega⟩

theorem plain_signed (negative : Bool) {text : List Char} (plain : Within IsPlain text) :
    Within IsPlain (signed negative text) := by
  cases negative with
  | false => exact plain
  | true => exact .cons (by decide) plain

theorem plain_intChars (n : Int) : Within IsPlain (Numeral.intChars n) := by
  rw [intChars_eq_signed]
  exact plain_signed _ (digits_toDigits _).plain

theorem plain_exponent {sign : Char} {digits : List Char} (isSign : sign = '-' ∨ sign = '+')
    (all : Digits digits) : Within IsPlain ('e' :: sign :: digits) := by
  rcases isSign with rfl | rfl
  · exact .cons (by decide) (.cons (by decide) all.plain)
  · exact .cons (by decide) (.cons (by decide) all.plain)

theorem RealText.plain {text : List Char} (real : RealText text) : Within IsPlain text := by
  cases real with
  | fraction isWhole all => exact .append isWhole.plain (.cons (by decide) all.plain)
  | exponent isWhole isSign all => exact .append isWhole.plain (plain_exponent isSign all)
  | both isWhole allBehind isSign all =>
    exact .append (.append isWhole.plain (.cons (by decide) allBehind.plain))
      (plain_exponent isSign all)

theorem FloatText.plain {text : List Char} (written : FloatText text) : Within IsPlain text := by
  cases written with
  | nan => simp [Within, IsPlain]
  | infinity negative => exact plain_signed negative (by simp [Within, IsPlain])
  | real negative real => exact plain_signed negative real.plain

theorem plain_mark {c : Char} {mark : List Char} (isMark : IsMark c mark) (first : IsPlain c) :
    Within IsPlain mark := by
  obtain ⟨blanks, rfl, all⟩ := isMark
  refine .cons first ?_
  intro d member
  rw [all d member]
  decide

/-- A class of characters that a style keeps to: the plain ones belong to it, and so does
what the marks and the characters of a text are written with. -/
structure Style.KeepsTo (style : Style) (allowed : Char → Prop) : Prop where
  plain : ∀ c, IsPlain c → allowed c
  separator : Within allowed style.separator
  colon : Within allowed style.colon
  character : ∀ c, Within allowed (style.character c)

section Class

variable {style : Style} {allowed : Char → Prop} (keeps : style.KeepsTo allowed)
include keeps

theorem within_text (value : String) : Within allowed (style.text value) := by
  have quote : allowed '"' := keeps.plain _ (by decide)
  refine .append (.cons quote ?_) (.cons quote nofun)
  intro d member
  obtain ⟨c, -, inside⟩ := List.mem_flatMap.mp member
  exact keeps.character c d inside

/-- What stands between brackets is enclosed by plain characters. -/
theorem within_brackets {opening closing : Char} {text : List Char} (first : IsPlain opening)
    (last : IsPlain closing) (within : Within allowed text) :
    Within allowed (opening :: text ++ [closing]) :=
  .append (.cons (keeps.plain _ first) within) (.cons (keeps.plain _ last) nofun)

mutual

/-- The text of a document keeps to the class. -/
theorem within_write : ∀ value : Json, Within allowed (write style value)
  | .null => .mono (by simp [Within, IsPlain, write]) keeps.plain
  | .bool true => .mono (by simp [Within, IsPlain, write]) keeps.plain
  | .bool false => .mono (by simp [Within, IsPlain, write]) keeps.plain
  | .int n => (plain_intChars n).mono keeps.plain
  | .float x => (floatText_write x).plain.mono keeps.plain
  | .str s => within_text keeps s
  | .arr items => within_brackets keeps (by decide) (by decide) (within_writeItems items)
  | .obj fields => within_brackets keeps (by decide) (by decide) (within_writeFields fields)

theorem within_writeItems : ∀ items : List Json, Within allowed (writeItems style items)
  | [] => nofun
  | [item] => within_write item
  | item :: next :: rest =>
    .append (.append (within_write item) keeps.separator) (within_writeItems (next :: rest))

theorem within_writeFields :
    ∀ fields : List (String × Json), Within allowed (writeFields style fields)
  | [] => nofun
  | [(key, value)] =>
    .append (.append (within_text keeps key) keeps.colon) (within_write value)
  | (key, value) :: next :: rest =>
    .append (.append (.append (.append (within_text keeps key) keeps.colon) (within_write value))
      keeps.separator) (within_writeFields (next :: rest))

end

end Class

/-- The plain style writes plain characters only. -/
theorem spaced_keepsTo : spaced.KeepsTo IsPlain where
  plain _ plain := plain
  separator := plain_mark spaced_legible.separator (by decide)
  colon := plain_mark spaced_legible.colon (by decide)
  character := spaced_plain

/-- A legible style writes no control characters. -/
theorem Style.Legible.keepsTo {style : Style} (legible : style.Legible) :
    style.KeepsTo (0x20 ≤ ·.toNat) where
  plain _ plain := plain.1
  separator := (plain_mark legible.separator (by decide)).mono fun _ plain => plain.1
  colon := (plain_mark legible.colon (by decide)).mono fun _ plain => plain.1
  character := legible.visible

/-! ## Bytes -/

/-- The bytes of a written document are recognised as UTF-8 and read as its text is. -/
theorem readBytes_write {style : Style} (legible : style.Legible) (value : Json) :
    readBytes (Utf8.encodeChars (write style value)) = .ok value.reread := by
  have visible := within_write legible.keepsTo value
  obtain ⟨c, tail, written, opens⟩ := write_eq_cons style value
  have encoding : Encoding.read? (Utf8.encodeChars (write style value)) =
      some (write style value) := by
    rw [written] at visible ⊢
    refine Encoding.read?_encodeChars opens.ascii ?_
    intro d member
    have := visible d member
    omega
  rw [readBytes, encoding]
  simp only [read_write legible]

theorem readBytes_plainBytes {document : Json} (regular : document.Regular) :
    readBytes document.plainBytes = .ok document :=
  (readBytes_write spaced_legible document).trans
    (congrArg Except.ok (reread_of_regular document regular))

end Provisioning.Json
