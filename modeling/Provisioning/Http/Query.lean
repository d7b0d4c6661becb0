import Provisioning.Bytes.Hex
import Provisioning.Text.Utf8

/-!
# Queries

Parameters as the query of a location: names and values joined by equals signs and
ampersands. A space is written as a plus sign; what is no ASCII letter or digit and
none of `-`, `.`, `_`, `~` is written byte by byte behind percent signs.
-/

namespace Provisioning.Http.Query

/-- Characters that stand for themselves. -/
def isPlain (n : Nat) : Bool :=
  (48 ≤ n && n ≤ 57) || (65 ≤ n && n ≤ 90) || (97 ≤ n && n ≤ 122) ||
    n == 45 || n == 46 || n == 95 || n == 126

def encodeByte (byte : UInt8) : List Char :=
  if byte = 0x20 then ['+']
  else if isPlain byte.toNat then [Char.ofNat byte.toNat]
  else '%' :: (Hex.encodeChars [byte]).map Char.toUpper

def encodeText (text : String) : List Char :=
  (Utf8.encode text).flatMap encodeByte

def encodePair (pair : String × String) : List Char :=
  encodeText pair.1 ++ '=' :: encodeText pair.2

/-- Parameters in their order. -/
def encodeChars : List (String × String) → List Char
  | [] => []
  | [pair] => encodePair pair
  | pair :: next :: rest => encodePair pair ++ '&' :: encodeChars (next :: rest)

/-- A location with parameters in place of its query; none leave it as it is. -/
def extend (url : String) (params : List (String × String)) : String :=
  if params.isEmpty then url
  else
    let chars := url.toList
    let fragment := chars.dropWhile (· != '#')
    let place := (chars.takeWhile (· != '#')).takeWhile (· != '?')
    String.ofList (place ++ '?' :: encodeChars params ++ fragment)

end Provisioning.Http.Query
