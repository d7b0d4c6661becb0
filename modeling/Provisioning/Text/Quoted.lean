import Provisioning.Text.Printable
import Provisioning.Bytes.Hex

/-!
# Quoted text

A text in quotes, as log lines and error texts show it. Single quotes are used
unless the text has one and no double quote; backslashes, the quote in use and
characters without visible form are escaped.
-/

namespace Provisioning.Text

/-- `width` hexadecimal digits of `n`. -/
def hexDigits : (width n : Nat) → List Char
  | 0, _ => []
  | width + 1, n => hexDigits width (n / 16) ++ [Hex.digit (n % 16)]

/-- One character between quotes of the kind `quote`. -/
def quotedChar (quote c : Char) : List Char :=
  let n := c.toNat
  if c = quote ∨ c = '\\' then ['\\', c]
  else if c = '\n' then ['\\', 'n']
  else if c = '\r' then ['\\', 'r']
  else if c = '\t' then ['\\', 't']
  else if isPrintable c then [c]
  else if n < 0x100 then '\\' :: 'x' :: hexDigits 2 n
  else if n < 0x10000 then '\\' :: 'u' :: hexDigits 4 n
  else '\\' :: 'U' :: hexDigits 8 n

/-- The quote that spares escapes. -/
def quoteFor (text : List Char) : Char :=
  if '\'' ∈ text ∧ '"' ∉ text then '"' else '\''

def quotedChars (text : List Char) : List Char :=
  let quote := quoteFor text
  quote :: text.flatMap (quotedChar quote) ++ [quote]

/-- The text between quotes. -/
def quoted (text : String) : String :=
  String.ofList (quotedChars text.toList)

/-- One byte between quotes: ASCII as itself, anything else by its number. -/
def quotedByte (quote : Char) (byte : UInt8) : List Char :=
  let n := byte.toNat
  let c := Char.ofNat n
  if c = quote ∨ c = '\\' then ['\\', c]
  else if c = '\n' then ['\\', 'n']
  else if c = '\r' then ['\\', 'r']
  else if c = '\t' then ['\\', 't']
  else if 0x20 ≤ n ∧ n < 0x7f then [c]
  else '\\' :: 'x' :: hexDigits 2 n

/-- A byte string between quotes, marked by a leading `b`. -/
def quotedBytes (bytes : Bytes) : String :=
  let quote := quoteFor (bytes.map fun byte => Char.ofNat byte.toNat)
  String.ofList ('b' :: quote :: bytes.flatMap (quotedByte quote) ++ [quote])

end Provisioning.Text
