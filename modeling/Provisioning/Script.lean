/-!
# Scripts

A script is a list of answers that are given one after the other; the last one is
given from then on.
-/

namespace Provisioning.Script

/-- What is left of a script after one answer. -/
def afterFirst {α : Type} : List α → List α
  | [] => []
  | [last] => [last]
  | _ :: next :: rest => next :: rest

theorem mem_of_mem_afterFirst {α : Type} {script : List α} {answer : α}
    (member : answer ∈ afterFirst script) : answer ∈ script := by
  match script, member with
  | [_], member => exact member
  | first :: _ :: _, member => exact List.mem_cons_of_mem first member

end Provisioning.Script
