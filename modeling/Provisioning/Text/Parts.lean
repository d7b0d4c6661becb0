/-!
# Parts of a text

A text between separators has one part more than it has separators
(`length_splitAt`).
-/

namespace Provisioning.Text

/-- The parts of a text between separators. -/
def splitAt (separator : Char) : List Char → List (List Char)
  | [] => [[]]
  | c :: rest =>
    if c = separator then [] :: splitAt separator rest
    else
      match splitAt separator rest with
      | first :: others => (c :: first) :: others
      | [] => [[c]]

theorem length_splitAt (separator : Char) (text : List Char) :
    (splitAt separator text).length = text.count separator + 1 := by
  induction text with
  | nil => rfl
  | cons c rest ih =>
    by_cases same : c = separator
    · simp [splitAt, same, ih]
    · simp only [splitAt, if_neg same]
      cases parts : splitAt separator rest with
      | nil => simp [parts] at ih
      | cons first others =>
        rw [List.count_cons_of_ne same, ← ih, parts]
        rfl

end Provisioning.Text
