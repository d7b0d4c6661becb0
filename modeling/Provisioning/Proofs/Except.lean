/-!
# Steps that may fail

What is known of the parts of a composed computation that ended in a value.
-/

namespace Provisioning

variable {ε δ α β : Type}

theorem bind_ok_inv {first : Except ε α} {next : α → Except ε β} {value : β}
    (done : (first >>= next) = .ok value) :
    ∃ a, first = .ok a ∧ next a = .ok value := by
  cases first with
  | ok a => exact ⟨a, rfl, done⟩
  | error e => cases done

theorem mapError_ok (change : ε → δ) (value : α) :
    (Except.ok value).mapError change = .ok value := rfl

theorem mapError_ok_inv {first : Except ε α} {change : ε → δ} {value : α}
    (done : first.mapError change = .ok value) : first = .ok value := by
  cases first with
  | ok a =>
    cases done
    rfl
  | error e => cases done

theorem guard_ok_inv {condition : Prop} {_ : Decidable condition} {error : ε}
    {next : PUnit → Except ε α} {value : α}
    (done : (if condition then throw error >>= next else next ⟨⟩) = .ok value) :
    ¬condition ∧ next ⟨⟩ = .ok value := by
  split at done
  · cases done
  · next fails => exact ⟨fails, done⟩

end Provisioning
