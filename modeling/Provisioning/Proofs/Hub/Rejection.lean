import Provisioning.Hub

/-!
# Reasons of rejections

A hub that turns a message down may say anything, or nothing. Whatever it says, the
reason that is taken from it is not empty (`Hub.rejectionReason_ne_empty`): only members
that count as given are looked at, and of those no text is empty; without them the body
stands for the reason, and without a body the status.
-/

namespace Provisioning

/-! ## Texts of values -/

namespace Decimal

/-- The digits of a number are never nothing, wherever its point stands. -/
theorem layout_ne_nil (format : FloatFormat) (n : Nat) (p : Int) : format.layout n p ≠ [] := by
  unfold FloatFormat.layout
  dsimp only
  split
  · split
    · exact List.append_ne_nil_of_right_ne_nil _ (List.cons_ne_nil _ _)
    · split
      · exact List.append_ne_nil_of_right_ne_nil _ (List.cons_ne_nil _ _)
      · exact List.cons_ne_nil _ _
  · exact List.append_ne_nil_of_right_ne_nil _ (List.cons_ne_nil _ _)

theorem plainFloat_write_ne_nil (x : Binary64) : plainFloat.write x ≠ [] := by
  have words : plainFloat.nan.toList ≠ [] ∧ plainFloat.infinity.toList ≠ [] := by decide
  rw [FloatFormat.write]
  generalize (if x.isNegative then ['-'] else []) = sign
  dsimp only
  split
  · exact words.1
  split
  · exact List.append_ne_nil_of_right_ne_nil sign words.2
  split
  · exact List.append_ne_nil_of_right_ne_nil sign (List.cons_ne_nil _ _)
  · exact List.append_ne_nil_of_right_ne_nil sign (layout_ne_nil _ _ _)

end Decimal

theorem Numeral.intChars_ne_nil (n : Int) : Numeral.intChars n ≠ [] := by
  unfold Numeral.intChars
  split
  · exact Nat.toDigits_ne_nil
  · exact List.cons_ne_nil _ _

namespace Json

theorem shown_ne_empty {value : Json} (chars : showChars value ≠ []) : value.shown ≠ "" := by
  rw [shown, Ne, String.ofList_eq_empty_iff]
  exact chars

/-- A value that counts as given has a text that is not empty. -/
theorem text_ne_empty {value : Json} (given : value.truthy = true) : value.text ≠ "" := by
  cases value with
  | null => cases given
  | bool b =>
    cases given
    exact shown_ne_empty (List.cons_ne_nil _ _)
  | int n => exact shown_ne_empty (Numeral.intChars_ne_nil n)
  | float x => exact shown_ne_empty (Decimal.plainFloat_write_ne_nil x)
  | str s => exact of_decide_eq_true given
  | arr items => exact shown_ne_empty (List.cons_ne_nil _ _)
  | obj fields => exact shown_ne_empty (List.cons_ne_nil _ _)

end Json

/-! ## Reasons -/

theorem Http.Response.textOrStatus_ne_empty (response : Http.Response) :
    response.textOrStatus ≠ "" := by
  unfold Http.Response.textOrStatus
  dsimp only
  split
  · simp
  · assumption

namespace Hub

theorem mem_reasonParts {document : Json} {part : String} (member : part ∈ reasonParts document) :
    part ≠ "" := by
  obtain ⟨value, inside, rfl⟩ := List.mem_map.mp member
  exact Json.text_ne_empty (List.mem_filter.mp inside).2

theorem intercalate_ne_empty {separator first : String} {rest : List String}
    (given : first ≠ "") : separator.intercalate (first :: rest) ≠ "" := by
  cases rest with
  | nil => simpa using given
  | cons second rest =>
    rw [String.intercalate_cons_cons]
    simp [given]

/-- A rejection always has a reason. -/
theorem rejectionReason_ne_empty (response : Http.Response) : rejectionReason response ≠ "" := by
  unfold rejectionReason
  split
  · next document _ =>
    split
    · exact response.textOrStatus_ne_empty
    · next parts some =>
      cases isParts : reasonParts document with
      | nil => exact absurd isParts some
      | cons first rest =>
        exact intercalate_ne_empty (mem_reasonParts (isParts ▸ List.mem_cons_self))
  · exact response.textOrStatus_ne_empty

end Hub

end Provisioning
