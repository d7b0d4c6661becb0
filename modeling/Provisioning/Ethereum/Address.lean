import Provisioning.Crypto.Keccak
import Provisioning.Fault
import Provisioning.Text.Case

/-!
# Addresses

An address is twenty bytes, the last ones of a public key's hash. Its text has
forty hexadecimal digits behind `0x`; the case of the letters is a checksum, taken
from the hash of the digits in lower case.
-/

namespace Provisioning.Address

/-- The address of a public key of 64 bytes. -/
def ofPublicKey (key : Bytes) : Bytes :=
  (Keccak.hash key).drop 12

/-- Raises the letters whose place in the hash holds eight or more. -/
def checksumChars (digits : List Char) : List Char :=
  let hash := Hex.encodeChars (Keccak.hash (digits.map fun c => UInt8.ofNat c.toNat))
  List.zipWith (fun c h => if 8 ≤ (Hex.value? h).getD 0 then c.toUpper else c) digits hash

/-- The text of an address with its checksum. -/
def text (address : Bytes) : String :=
  "0x" ++ String.ofList (checksumChars (Hex.encodeChars address))

/-- Digits behind an optional `0x` or `0X`. -/
def unmarked (text : List Char) : List Char :=
  match text with
  | '0' :: 'x' :: rest => rest
  | '0' :: 'X' :: rest => rest
  | _ => text

/-- The address in a text of forty digits of any case, marked or not. -/
def ofText? (text : String) : Option Bytes :=
  let digits := unmarked text.toList
  if digits.length = 40 then Hex.decodeStrict? digits else none

/-- The address in a text of digits; a text that has other characters, or too few or
too many digits, is a fault. -/
def read (text : String) : Except Fault Bytes :=
  let digits := unmarked text.toList
  if digits.all fun c => (Hex.value? c).isSome then
    match ofText? text with
    | some address => .ok address
    | none => .error (.address text)
  else .error (.addressDigits text)

/-- Whether the case of the letters is the checksum. -/
def isChecksummed (address : String) : Bool :=
  (ofText? address).any fun bytes => text bytes == address

/-- Whether letters of both cases occur. -/
def isMixed (address : String) : Bool :=
  let digits := unmarked address.toList
  digits.any Char.isLower && digits.any Char.isUpper

/-- The address in a text whose letters are all of one case, or its checksum. -/
def ofSpelling? (address : String) : Option Bytes :=
  match ofText? address with
  | some bytes =>
    if isMixed address && (text bytes).toList.drop 2 != unmarked address.toList then none
    else some bytes
  | none => none

end Provisioning.Address
