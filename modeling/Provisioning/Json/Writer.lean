import Provisioning.Json
import Provisioning.Decimal.Numeral
import Provisioning.Decimal.Shortest
import Provisioning.Text.Quoted
import Provisioning.Text.Utf8

/-!
# Writing documents

Two styles of one writer. The canonical form has sorted keys, no blanks, and
escapes only what must be; a document has exactly one. The plain form keeps the
order of the members, puts a blank behind each mark, and is ASCII throughout. As in
reading, no limit on the depth of nesting or on the digits of an integer is modelled.
-/

namespace Provisioning.Json

/-- How a document is written: the marks between members and behind keys, and the
text of a character inside quotes. -/
structure Style where
  separator : List Char
  colon : List Char
  character : Char → List Char

/-- The short escapes of a quoted character. -/
def shortEscape? (c : Char) : Option Char :=
  match c.toNat with
  | 0x22 => some '"'
  | 0x5c => some '\\'
  | 0x0a => some 'n'
  | 0x0d => some 'r'
  | 0x09 => some 't'
  | 0x0c => some 'f'
  | 0x08 => some 'b'
  | _ => none

def unitEscape (n : Nat) : List Char :=
  '\\' :: 'u' :: Text.hexDigits 4 n

/-- Escapes quotes, backslashes and control characters. -/
def rawCharacter (c : Char) : List Char :=
  match shortEscape? c with
  | some e => ['\\', e]
  | none => if c.toNat < 0x20 then unitEscape c.toNat else [c]

/-- Escapes whatever is not a visible ASCII character, by UTF-16 units. -/
def asciiCharacter (c : Char) : List Char :=
  match shortEscape? c with
  | some e => ['\\', e]
  | none =>
    let n := c.toNat
    if 0x20 ≤ n ∧ n < 0x7f then [c]
    else if n < 0x10000 then unitEscape n
    else
      unitEscape (0xd800 + (n - 0x10000) / 1024) ++ unitEscape (0xdc00 + (n - 0x10000) % 1024)

/-- No blanks, characters as they are. -/
def compact : Style := ⟨[','], [':'], rawCharacter⟩

/-- A blank behind each mark, ASCII only. -/
def spaced : Style := ⟨[',', ' '], [':', ' '], asciiCharacter⟩

def Style.text (style : Style) (value : String) : List Char :=
  '"' :: value.toList.flatMap style.character ++ ['"']

mutual

def write (style : Style) : Json → List Char
  | .null => ['n', 'u', 'l', 'l']
  | .bool true => ['t', 'r', 'u', 'e']
  | .bool false => ['f', 'a', 'l', 's', 'e']
  | .int n => Numeral.intChars n
  | .float x => Decimal.documentFloat.write x
  | .str s => style.text s
  | .arr items => '[' :: writeItems style items ++ [']']
  | .obj fields => '{' :: writeFields style fields ++ ['}']

def writeItems (style : Style) : List Json → List Char
  | [] => []
  | [item] => write style item
  | item :: next :: rest =>
    write style item ++ style.separator ++ writeItems style (next :: rest)

def writeFields (style : Style) : List (String × Json) → List Char
  | [] => []
  | [(key, value)] => style.text key ++ style.colon ++ write style value
  | (key, value) :: next :: rest =>
    style.text key ++ style.colon ++ write style value ++ style.separator ++
      writeFields style (next :: rest)

end

mutual

/-- Puts the members of every object into the order of their keys. -/
def sortKeys : Json → Json
  | .arr items => .arr (sortItems items)
  | .obj fields => .obj ((sortFields fields).mergeSort fun a b => decide (a.1 ≤ b.1))
  | other => other

def sortItems : List Json → List Json
  | [] => []
  | item :: rest => sortKeys item :: sortItems rest

def sortFields : List (String × Json) → List (String × Json)
  | [] => []
  | (key, value) :: rest => (key, sortKeys value) :: sortFields rest

end

/-- The canonical text of a document. -/
def canonicalChars (document : Json) : List Char :=
  write compact document.sortKeys

/-- The canonical bytes of a document, which its hash commits to. -/
def canonical (document : Json) : Bytes :=
  Utf8.encodeChars (canonicalChars document)

/-- The plain text of a document. -/
def plain (document : Json) : String :=
  String.ofList (write spaced document)

/-- The plain text as bytes: a posted body. -/
def plainBytes (document : Json) : Bytes :=
  Utf8.encodeChars (write spaced document)

end Provisioning.Json
