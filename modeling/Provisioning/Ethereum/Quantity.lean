import Provisioning.Bytes.Hex
import Provisioning.Json

/-!
# Quantities

Numbers in calls of a node are hexadecimal texts without leading zeros behind `0x`.
Whoever reads one lets the mark go missing, and takes a number as it is.
-/

namespace Provisioning.Quantity

/-- A number with as few digits as it has. -/
def text (n : Int) : String :=
  (if n < 0 then "-" else "") ++ "0x" ++ String.ofList (Nat.toDigits 16 n.natAbs)

/-- A number as it goes into a call; any other value stays as it is. -/
def shown : Json → Json
  | .int n => .str (text n)
  | other => other

/-- The digits behind a mark, if there is one. -/
def unmarked (text : List Char) : List Char :=
  match text with
  | '0' :: 'x' :: rest => rest
  | '0' :: 'X' :: rest => rest
  | _ => text

/-- The number that digits write. -/
def ofDigits? (digits : List Char) : Option Nat :=
  if digits.isEmpty then none
  else
    digits.foldl (fun n? c =>
      match n?, Hex.value? c with
      | some n, some d => some (16 * n + d)
      | _, _ => none) (some 0)

/-- The number that a text writes. -/
def ofText? (text : String) : Option Nat :=
  ofDigits? (unmarked text.toList)

end Provisioning.Quantity
