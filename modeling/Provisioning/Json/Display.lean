import Provisioning.Json
import Provisioning.Decimal.Numeral
import Provisioning.Decimal.Shortest
import Provisioning.Text.Quoted

/-!
# Showing values in texts

The text of a value in a log line or an error: texts inside lists and objects are
quoted, truth values are capitalised, and nothing is `None`.
-/

namespace Provisioning.Json

/-- The text of a scalar. -/
def boolText (b : Bool) : String := if b then "True" else "False"

mutual

/-- The text of a value in which texts are quoted. -/
def showChars : Json → List Char
  | .null => ['N', 'o', 'n', 'e']
  | .bool b => (boolText b).toList
  | .int n => Numeral.intChars n
  | .float x => Decimal.plainFloat.write x
  | .str s => Text.quotedChars s.toList
  | .arr items => '[' :: showItems items ++ [']']
  | .obj fields => '{' :: showFields fields ++ ['}']

def showItems : List Json → List Char
  | [] => []
  | [item] => showChars item
  | item :: next :: rest => showChars item ++ ',' :: ' ' :: showItems (next :: rest)

def showFields : List (String × Json) → List Char
  | [] => []
  | [(key, value)] => Text.quotedChars key.toList ++ ':' :: ' ' :: showChars value
  | (key, value) :: next :: rest =>
    Text.quotedChars key.toList ++ ':' :: ' ' :: showChars value ++
      ',' :: ' ' :: showFields (next :: rest)

end

/-- The value with texts quoted. -/
def shown (value : Json) : String :=
  String.ofList (showChars value)

/-- The value as it stands in a sentence: a text is not quoted. -/
def text : Json → String
  | .str s => s
  | other => other.shown

end Provisioning.Json
