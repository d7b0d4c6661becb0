import Provisioning.Decimal.Binary64
import Provisioning.Text.Blank
import Provisioning.Text.Digit

/-!
# Reading numerals

Integers and binary64 numbers from free text: blanks around, a sign, decimal
digits of any script, and single underscores between digits. A binary64 number
may have a point, an exponent, or be one of the words for infinity and for no
number. Where an interpreter limits the number of digits that it converts, to or from
text, that limit is outside the model.
-/

namespace Provisioning.Numeral

/-- A numeral without the blanks around it. -/
def trim (text : List Char) : List Char :=
  Text.strip Text.isSpace text

/-- Splits a sign off the front; true for minus. -/
def sign (text : List Char) : Bool × List Char :=
  match text with
  | '-' :: rest => (true, rest)
  | '+' :: rest => (false, rest)
  | _ => (false, text)

/-- Decimal digits of any script as ASCII digits. -/
def toAscii (c : Char) : Char :=
  match Text.decimalValue? c with
  | some v => Char.ofNat (48 + v)
  | none => c

def isDigit (c : Char) : Bool := 48 ≤ c.toNat && c.toNat ≤ 57

/-- Drops underscores that stand between two digits; none if another one does not. -/
def dropUnderscores? : (afterDigit : Bool) → List Char → Option (List Char)
  | _, [] => some []
  | afterDigit, '_' :: rest =>
    match rest with
    | d :: _ => if afterDigit && isDigit d then dropUnderscores? false rest else none
    | [] => none
  | _, c :: rest => (dropUnderscores? (isDigit c) rest).map (c :: ·)

/-- The number written by ASCII digits. -/
def ofDigits (digits : List Char) : Nat :=
  digits.foldl (fun n c => 10 * n + (c.toNat - 48)) 0

/-- An integer from free text. -/
def int? (text : List Char) : Option Int :=
  let (negative, digits) := sign ((trim text).map toAscii)
  match digits with
  | [] => none
  | d :: _ =>
    if isDigit d then
      match dropUnderscores? false digits with
      | some digits =>
        if digits.all isDigit then
          some (if negative then -(ofDigits digits : Int) else ofDigits digits)
        else none
      | none => none
    else none

/-- The exponent part, from its mark to the end of the text. -/
def exponent? (text : List Char) : Option Int :=
  match text with
  | [] => some 0
  | mark :: rest =>
    if mark = 'e' ∨ mark = 'E' then
      let (negative, digits) := sign rest
      if digits ≠ [] ∧ digits.all isDigit then
        some (if negative then -(ofDigits digits : Int) else ofDigits digits)
      else none
    else none

/-- A numeral with ASCII digits only, from its first digit or point on. -/
def unsigned? (negative : Bool) (text : List Char) : Option Binary64 :=
  let whole := text.takeWhile isDigit
  let rest := text.dropWhile isDigit
  let (fraction, rest) :=
    match rest with
    | '.' :: tail => (tail.takeWhile isDigit, tail.dropWhile isDigit)
    | _ => ([], rest)
  if whole = [] ∧ fraction = [] then none
  else
    (exponent? rest).map fun e =>
      Binary64.ofDecimal negative (ofDigits (whole ++ fraction)) (e - fraction.length)

/-- A binary64 number from free text. -/
def float? (text : List Char) : Option Binary64 :=
  let (negative, body) := sign ((trim text).map toAscii)
  let word := String.ofList (body.map Char.toLower)
  if word = "inf" ∨ word = "infinity" then some (Binary64.infinity negative)
  else if word = "nan" then some Binary64.nan
  else
    match dropUnderscores? false body with
    | some digits => unsigned? negative digits
    | none => none

/-- An integer in decimal. -/
def intChars (n : Int) : List Char :=
  match n with
  | .ofNat n => Nat.toDigits 10 n
  | .negSucc n => '-' :: Nat.toDigits 10 (n + 1)

def intText (n : Int) : String :=
  String.ofList (intChars n)

end Provisioning.Numeral
