import Provisioning.Message.Body
import Provisioning.Proofs.Text.Utf8

/-!
# Usernames

A username is one to sixteen lowercase ASCII letters, digits and hyphens, with no hyphen first
(`Username.IsName`). A profile takes every username, and the empty text in place of one. It
takes one kind of text besides: a username with a line feed behind it, as far as both together
have sixteen characters (`Username.EndsLine`). Every other text breaks a rule. Main statement:
`Body.username_accepted_iff`.
-/

namespace Provisioning

namespace Username

/-- A lowercase letter or a digit of ASCII. -/
def IsAlphanumeric (c : Char) : Prop :=
  ('a' ≤ c ∧ c ≤ 'z') ∨ ('0' ≤ c ∧ c ≤ '9')

/-- One to sixteen letters, digits and hyphens, no hyphen first. -/
structure IsName (name : List Char) : Prop where
  nonempty : name ≠ []
  short : name.length ≤ 16
  characters : ∀ c ∈ name, IsAlphanumeric c ∨ c = '-'
  opens : name.head? ≠ some '-'

/-- A username and a line feed, sixteen characters at most. -/
def EndsLine (text : List Char) : Prop :=
  ∃ name, text = name ++ ['\n'] ∧ IsName name ∧ name.length ≤ 15

variable {c : Char} {name text : List Char}

theorem isInitial_iff : isInitial c = true ↔ IsAlphanumeric c := by
  simp only [isInitial, IsAlphanumeric, Char.le_def, UInt32.le_iff_toNat_le, Bool.or_eq_true,
    Bool.and_eq_true, decide_eq_true_eq]
  rfl

theorem isPart_iff : isPart c = true ↔ IsAlphanumeric c ∨ c = '-' := by
  simp [isPart, isInitial_iff]

theorem ascii_of_isPart (part : IsAlphanumeric c ∨ c = '-') : c.toNat < 0x80 := by
  rw [← isInitial_iff, isInitial] at part
  rcases part with initial | rfl
  · simp only [Bool.or_eq_true, Bool.and_eq_true, decide_eq_true_eq] at initial
    omega
  · decide

theorem IsName.ne_feed (isName : IsName name) : ∀ c ∈ name, c ≠ '\n' := by
  rintro c member rfl
  exact absurd (isPart_iff.mpr (isName.characters '\n' member)) (by decide)

theorem EndsLine.ne_nil (endsLine : EndsLine text) : text ≠ [] := by
  obtain ⟨name, rfl, -⟩ := endsLine
  simp

theorem EndsLine.not_isName (endsLine : EndsLine text) : ¬IsName text := by
  obtain ⟨name, rfl, -⟩ := endsLine
  exact fun isName => isName.ne_feed '\n' (by simp) rfl

/-! ## The check -/

theorem isName_cons_iff {rest : List Char} :
    IsName (c :: rest) ↔
      isInitial c = true ∧ rest.length ≤ 15 ∧ rest.all isPart = true := by
  constructor
  · intro isName
    obtain ⟨first, others⟩ := List.forall_mem_cons.mp isName.characters
    refine ⟨isInitial_iff.mpr (first.resolve_right ?_), ?_, ?_⟩
    · rintro rfl
      exact isName.opens rfl
    · exact Nat.le_of_succ_le_succ isName.short
    · exact List.all_eq_true.mpr fun d member => isPart_iff.mpr (others d member)
  · rintro ⟨initial, short, parts⟩
    refine ⟨List.cons_ne_nil _ _, Nat.succ_le_succ short, ?_, ?_⟩
    · refine List.forall_mem_cons.mpr ⟨.inl (isInitial_iff.mp initial), fun d member => ?_⟩
      exact isPart_iff.mp (List.all_eq_true.mp parts d member)
    · rw [List.head?_cons, Ne, Option.some_inj]
      rintro rfl
      exact absurd initial (by decide)

/-- The check passes over one line feed at the end. -/
theorem isValid_of_not_feed (noFeed : name.getLast? ≠ some '\n') :
    isValid name = true ↔ IsName name := by
  unfold isValid
  rw [if_neg noFeed]
  cases name with
  | nil => exact iff_of_false Bool.false_ne_true fun isName => isName.nonempty rfl
  | cons c rest => simp [isName_cons_iff, and_assoc]

theorem isValid_append_feed : isValid (name ++ ['\n']) = true ↔ IsName name := by
  unfold isValid
  rw [if_pos List.getLast?_concat, List.dropLast_concat]
  cases name with
  | nil => exact iff_of_false Bool.false_ne_true fun isName => isName.nonempty rfl
  | cons c rest => simp [isName_cons_iff, and_assoc]

theorem isValid_iff :
    isValid text = true ↔ IsName text ∨ ∃ name, text = name ++ ['\n'] ∧ IsName name := by
  by_cases feed : text.getLast? = some '\n'
  · obtain ⟨name, rfl⟩ := List.getLast?_eq_some_iff.mp feed
    rw [isValid_append_feed]
    constructor
    · exact fun isName => .inr ⟨name, rfl, isName⟩
    · rintro (isName | ⟨other, same, isName⟩)
      · exact absurd rfl (isName.ne_feed '\n' (by simp))
      · rwa [List.append_cancel_right same]
  · rw [isValid_of_not_feed feed, or_iff_left]
    rintro ⟨name, rfl, -⟩
    exact feed List.getLast?_concat

/-- What passes the check takes a byte for each character. -/
theorem length_encodeChars_of_isValid (valid : isValid text = true) :
    (Utf8.encodeChars text).length = text.length := by
  have ascii : ∀ c ∈ text, c.toNat < 0x80 := by
    rcases isValid_iff.mp valid with isName | ⟨name, rfl, isName⟩
    · exact fun c member => ascii_of_isPart (isName.characters c member)
    · rintro c member
      rcases List.mem_append.mp member with inside | feed
      · exact ascii_of_isPart (isName.characters c inside)
      · rw [List.mem_singleton.mp feed]
        decide
  rw [Utf8.encodeChars_of_ascii ascii, List.length_map]

/-- The check and the limit together. -/
theorem fits_iff :
    ((Utf8.encodeChars text).length ≤ 16 ∧ isValid text = true) ↔ IsName text ∨ EndsLine text := by
  constructor
  · rintro ⟨short, valid⟩
    rw [length_encodeChars_of_isValid valid] at short
    rcases isValid_iff.mp valid with isName | ⟨name, rfl, isName⟩
    · exact .inl isName
    · rw [List.length_append] at short
      exact .inr ⟨name, rfl, isName, Nat.le_of_succ_le_succ short⟩
  · intro fits
    have valid : isValid text = true := by
      rw [isValid_iff]
      exact fits.imp_right fun ⟨name, isText, isName, _⟩ => ⟨name, isText, isName⟩
    refine ⟨?_, valid⟩
    rw [length_encodeChars_of_isValid valid]
    rcases fits with isName | ⟨name, rfl, -, short⟩
    · exact isName.short
    · rw [List.length_append]
      exact Nat.succ_le_succ short

end Username

namespace Body

/-! ## The name on a profile -/

/-- A text as the value of a field is held to the limit of the field, and as a username to its
form. -/
theorem profileUpdate_text {field : ProfileField}
    (known : ProfileField.ofCode? field.code = some field) (text : String) :
    profileUpdate (.int field.code) (.str text) =
      if field.limit < (Utf8.encode text).length then
        .error (.refusal (.valueTooLong field.name field.limit))
      else if field = .username ∧ text ≠ "" ∧ ¬Username.isValid text.toList then
        .error (.refusal (.invalidUsername text))
      else .ok (.profile field (.str text)) := by
  have isField : Json.member "UserDataType" ProfileField.ofCode? (.int field.code) =
      .ok field := by
    simp [Json.member, Json.integer?, known]
  have isText : (Json.str text).asText "encode" = .ok text := rfl
  rw [profileUpdate, isField]
  simp only [isText, bind, Except.bind]
  split
  · rfl
  split
  · rfl
  · rfl

/-- The profile takes the text as its name. -/
def TakesName (text : String) : Prop :=
  profileUpdate (.int ProfileField.username.code) (.str text) =
    .ok (.profile .username (.str text))

/-- The text breaks a rule of names. -/
def BreaksRule (text : String) : Prop :=
  ∃ refusal, profileUpdate (.int ProfileField.username.code) (.str text) =
    .error (.refusal refusal)

variable {text : String}

theorem breaksRule_iff : BreaksRule text ↔ ¬TakesName text := by
  have known : ProfileField.ofCode? ProfileField.username.code = some .username := rfl
  unfold BreaksRule TakesName
  rw [profileUpdate_text known]
  split
  · simp
  split
  · simp
  · simp

theorem takesName_iff :
    TakesName text ↔
      text = "" ∨ ((Utf8.encodeChars text.toList).length ≤ 16 ∧ Username.isValid text.toList) := by
  have known : ProfileField.ofCode? ProfileField.username.code = some .username := rfl
  have limit : ProfileField.username.limit = 16 := rfl
  unfold TakesName
  rw [profileUpdate_text known, limit, Utf8.encode]
  by_cases isEmpty : text = ""
  · subst isEmpty
    simp [Utf8.encodeChars]
  by_cases long : 16 < (Utf8.encodeChars text.toList).length
  · simp [long, Nat.not_le.mpr long, isEmpty]
  · by_cases valid : Username.isValid text.toList = true <;>
      simp [long, Nat.not_lt.mp long, isEmpty, valid]

/-- A profile takes exactly the empty text, the usernames, and the usernames of up to fifteen
characters with a line feed behind them; every other text breaks a rule. So it takes exactly the
empty text and the usernames unless the text is of the third kind. -/
theorem username_accepted_iff (text : String) :
    (TakesName text ↔
      text = "" ∨ Username.IsName text.toList ∨ Username.EndsLine text.toList) ∧
    (BreaksRule text ↔ ¬TakesName text) ∧
    ((TakesName text ↔ text = "" ∨ Username.IsName text.toList) ↔
      ¬Username.EndsLine text.toList) := by
  have takes : TakesName text ↔
      text = "" ∨ Username.IsName text.toList ∨ Username.EndsLine text.toList := by
    rw [takesName_iff, Username.fits_iff]
  refine ⟨takes, breaksRule_iff, ?_⟩
  rw [takes]
  constructor
  · intro same endsLine
    rcases same.mp (.inr (.inr endsLine)) with isEmpty | isName
    · exact endsLine.ne_nil (by rw [isEmpty]; rfl)
    · exact endsLine.not_isName isName
  · intro plain
    rw [or_iff_left plain]

/-- A username with a line feed behind it is no username, and the profile takes it. -/
theorem feed_accepted :
    TakesName "alice\n" ∧ ¬("alice\n" = "" ∨ Username.IsName "alice\n".toList) := by
  have name : Username.IsName "alice".toList := by
    rw [← Username.isValid_of_not_feed (by decide)]
    decide
  have endsLine : Username.EndsLine "alice\n".toList := ⟨"alice".toList, rfl, name, by decide⟩
  refine ⟨takesName_iff.mpr (.inr (Username.fits_iff.mpr (.inr endsLine))), ?_⟩
  rintro (isEmpty | isName)
  · exact absurd isEmpty (by decide)
  · exact endsLine.not_isName isName

end Body

end Provisioning
