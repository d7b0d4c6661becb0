import Provisioning.Text.Case

/-!
# What lower case leaves outside ASCII

Lower case is a matter of single letters in ASCII (`Text.lower_of_ascii`). A character
outside ASCII leaves one outside ASCII behind, and only the Kelvin sign leaves a letter of
ASCII instead, a `k` (`Text.exists_mem_lowerFrom`): no text becomes digits that was not
written in ASCII.
-/

namespace Provisioning.Text

/-- A character that one outside ASCII leaves in lower case. -/
def IsLeft (c : Char) : Prop := 128 ≤ c.toNat ∨ c = 'k'

/-! ## Runs of capital letters -/

/-- The small letters of a run are characters outside ASCII, unless it is the Kelvin sign. -/
theorem image_of_mem_capitalRuns {run : CapitalRun} (mem : run ∈ capitalRuns) :
    run = ⟨0x212a, 0x212a, 1, 0x6b⟩ ∨
      128 ≤ run.image ∧ (run.image + (run.last - run.first) < 0xd800 ∨
        0xdfff < run.image ∧ run.image + (run.last - run.first) < 0x110000) := by
  have all : ∀ run ∈ capitalRuns, run = ⟨0x212a, 0x212a, 1, 0x6b⟩ ∨
      128 ≤ run.image ∧ (run.image + (run.last - run.first) < 0xd800 ∨
        0xdfff < run.image ∧ run.image + (run.last - run.first) < 0x110000) := by
    decide +kernel
  exact all run mem

/-- A character outside ASCII leaves one that is, or a `k`. -/
theorem exists_mem_lowerChar {c : Char} (wide : 128 ≤ c.toNat) : ∃ d ∈ lowerChar c, IsLeft d := by
  have kept : ∃ d ∈ [c], IsLeft d := ⟨c, List.mem_singleton_self c, .inl wide⟩
  unfold lowerChar
  dsimp only
  rw [if_neg (Nat.not_lt.mpr wide)]
  split
  · exact ⟨Char.ofNat 0x307, by simp, .inl (by decide)⟩
  · split
    · next run found =>
      obtain ⟨within, -⟩ := Array.find?_eq_some_iff_append.mp found
      rw [Bool.and_eq_true, decide_eq_true_eq, decide_eq_true_eq] at within
      split
      · refine ⟨_, List.mem_singleton_self _, ?_⟩
        rcases image_of_mem_capitalRuns (Array.mem_of_find?_eq_some found) with
          rfl | ⟨outside, isChar⟩
        · have same : c.toNat = 0x212a := Nat.le_antisymm within.2 within.1
          exact .inr (by rw [same]; rfl)
        · refine .inl ?_
          rw [Char.ofNat, dif_pos (by unfold Nat.isValidChar; omega)]
          exact Nat.le_add_right_of_le outside
      · exact kept
    · exact kept

/-! ## Texts -/

theorem lowerChar_of_ascii {c : Char} (ascii : c.toNat < 128) : lowerChar c = [c.toLower] :=
  if_pos ascii

theorem lowerFrom_of_ascii {text : List Char} (ascii : ∀ c ∈ text, c.toNat < 128)
    (before : List Char) : lowerFrom before text = text.map Char.toLower := by
  induction text generalizing before with
  | nil => rfl
  | cons c rest ih =>
    have small : c.toNat < 128 := ascii c List.mem_cons_self
    have plain : c ≠ 'Σ' := by
      rintro rfl
      exact absurd small (by decide)
    rw [lowerFrom, if_neg plain, lowerChar_of_ascii small,
      ih (fun d mem => ascii d (List.mem_cons_of_mem c mem))]
    rfl

theorem lower_of_ascii {text : String} (ascii : ∀ c ∈ text.toList, c.toNat < 128) :
    lower text = String.ofList (text.toList.map Char.toLower) := by
  rw [lower, lowerFrom_of_ascii ascii]

/-- A text with a character outside ASCII leaves one of those that such a character leaves. -/
theorem exists_mem_lowerFrom {text : List Char} {c : Char} (mem : c ∈ text)
    (wide : 128 ≤ c.toNat) (before : List Char) : ∃ d ∈ lowerFrom before text, IsLeft d := by
  induction text generalizing before with
  | nil => cases mem
  | cons first rest ih =>
    rw [lowerFrom]
    rcases List.mem_cons.mp mem with rfl | later
    · split
      · refine ⟨_, List.mem_append_left _ (List.mem_singleton_self _), .inl ?_⟩
        unfold lowerSigma
        split <;> decide
      · obtain ⟨d, left, isLeft⟩ := exists_mem_lowerChar wide
        exact ⟨d, List.mem_append_left _ left, isLeft⟩
    · obtain ⟨d, left, isLeft⟩ := ih later (first :: before)
      exact ⟨d, List.mem_append_right _ left, isLeft⟩

end Provisioning.Text
