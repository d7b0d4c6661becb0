import Provisioning.Json
import Provisioning.Decimal.Numeral
import Provisioning.Bytes.Hex
import Provisioning.Text.Encoding

/-!
# Reading documents

The reader takes the JSON grammar, and besides it the words for infinity and for
no number. A key bound twice keeps its first place and its last value. An error
says what was expected and how much of the text was left there. `Json.readBytes`
reads a document in any of the Unicode encodings.

The recursion spends one unit of fuel a call, and `Json.read` supplies two for
each character, which no nesting can use up. An interpreter may give up on nesting that
is deeper than its stack, or on integers with thousands of digits; such limits are
outside the model, and documents beyond them are read like any other.
-/

namespace Provisioning.Json

/-- What the reader missed. -/
inductive Expectation where
  | value
  | key
  | colon
  | comma
  | end_
  | closingQuote
  | printable
  | escape
  | unit

/-- A failure to read: what was missed, with how many characters were left. -/
structure ReadError where
  missed : Expectation
  remaining : Nat

abbrev Reading (α : Type) := Except ReadError (α × List Char)

def missed {α : Type} (what : Expectation) (rest : List Char) : Except ReadError α :=
  .error ⟨what, rest.length⟩

def isSpace (c : Char) : Bool :=
  c == ' ' || c == '\t' || c == '\n' || c == '\r'

def skipSpace (text : List Char) : List Char :=
  text.dropWhile isSpace

/-- A sixteen-bit unit from four hexadecimal digits. -/
def unit? (a b c d : Char) : Option Nat :=
  match Hex.value? a, Hex.value? b, Hex.value? c, Hex.value? d with
  | some w, some x, some y, some z => some (4096 * w + 256 * x + 16 * y + z)
  | _, _, _, _ => none

/-- The character behind a backslash. -/
def unescape? (c : Char) : Option Nat :=
  match c with
  | '"' => some 0x22
  | '\\' => some 0x5c
  | '/' => some 0x2f
  | 'b' => some 0x08
  | 'f' => some 0x0c
  | 'n' => some 0x0a
  | 'r' => some 0x0d
  | 't' => some 0x09
  | _ => none

/-- The code points and units of a text, up to its closing quote; `opening` is what
was left at the opening one. -/
def readUnits (opening : Nat) : List Char → Reading (List Nat)
  | [] => .error ⟨.closingQuote, opening⟩
  | '"' :: rest => .ok ([], rest)
  | '\\' :: rest =>
    match rest with
    | [] => .error ⟨.closingQuote, opening⟩
    | 'u' :: tail =>
      match tail with
      | a :: b :: c :: d :: tail' =>
        match unit? a b c d with
        | some n =>
          match readUnits opening tail' with
          | .ok (units, rest) => .ok (n :: units, rest)
          | .error e => .error e
        | none => missed .unit tail
      | _ => missed .unit tail
    | e :: tail =>
      match unescape? e with
      | some n =>
        match readUnits opening tail with
        | .ok (units, rest) => .ok (n :: units, rest)
        | .error e => .error e
      | none => .error ⟨.escape, tail.length + 2⟩
  | c :: rest =>
    if c.toNat < 0x20 then .error ⟨.printable, rest.length + 1⟩
    else
      match readUnits opening rest with
      | .ok (units, rest) => .ok (c.toNat :: units, rest)
      | .error e => .error e

/-- A text whose opening quote has been taken. -/
def readText (text : List Char) : Reading String :=
  match readUnits (text.length + 1) text with
  | .ok (units, rest) => .ok (String.ofList (Encoding.ofUnits16 units), rest)
  | .error e => .error e

/-- The fraction of a numeral: digits behind a point. -/
def readFraction (text : List Char) : Option (List Char × List Char) :=
  match text with
  | '.' :: tail =>
    let digits := tail.takeWhile Numeral.isDigit
    if digits = [] then none else some (digits, tail.dropWhile Numeral.isDigit)
  | _ => none

/-- The exponent of a numeral. -/
def readExponent (text : List Char) : Option (Int × List Char) :=
  match text with
  | mark :: tail =>
    if mark = 'e' ∨ mark = 'E' then
      let (negative, tail) := Numeral.sign tail
      let digits := tail.takeWhile Numeral.isDigit
      if digits = [] then none
      else
        let n : Int := Numeral.ofDigits digits
        some (if negative then -n else n, tail.dropWhile Numeral.isDigit)
    else none
  | [] => none

/-- The digits before the point: a zero alone, or any others. -/
def readWhole (text : List Char) : Option (List Char × List Char) :=
  match text with
  | '0' :: rest => some (['0'], rest)
  | c :: _ =>
    if Numeral.isDigit c then
      some (text.takeWhile Numeral.isDigit, text.dropWhile Numeral.isDigit)
    else none
  | [] => none

/-- A numeral whose sign has been taken; the longest one wins. -/
def readNumber (negative : Bool) (text : List Char) : Option (Json × List Char) :=
  match readWhole text with
  | none => none
  | some (whole, rest) =>
    let signed (n : Nat) : Int := if negative then -n else n
    match readFraction rest with
    | some (fraction, rest') =>
      let digits := Numeral.ofDigits (whole ++ fraction)
      match readExponent rest' with
      | some (e, rest'') =>
        some (.float (Binary64.ofDecimal negative digits (e - fraction.length)), rest'')
      | none => some (.float (Binary64.ofDecimal negative digits (-fraction.length)), rest')
    | none =>
      match readExponent rest with
      | some (e, rest') =>
        some (.float (Binary64.ofDecimal negative (Numeral.ofDigits whole) e), rest')
      | none => some (.int (signed (Numeral.ofDigits whole)), rest)

/-- A word or a numeral. -/
def readScalar (text : List Char) : Reading Json :=
  match text with
  | 'n' :: 'u' :: 'l' :: 'l' :: rest => .ok (.null, rest)
  | 't' :: 'r' :: 'u' :: 'e' :: rest => .ok (.bool true, rest)
  | 'f' :: 'a' :: 'l' :: 's' :: 'e' :: rest => .ok (.bool false, rest)
  | 'N' :: 'a' :: 'N' :: rest => .ok (.float Binary64.nan, rest)
  | 'I' :: 'n' :: 'f' :: 'i' :: 'n' :: 'i' :: 't' :: 'y' :: rest =>
    .ok (.float (Binary64.infinity false), rest)
  | '-' :: 'I' :: 'n' :: 'f' :: 'i' :: 'n' :: 'i' :: 't' :: 'y' :: rest =>
    .ok (.float (Binary64.infinity true), rest)
  | '-' :: rest =>
    match readNumber true rest with
    | some result => .ok result
    | none => missed .value text
  | _ =>
    match readNumber false text with
    | some result => .ok result
    | none => missed .value text

/-- Members in the order of the text; a key bound again keeps its place. -/
def ofMembers (members : List (String × Json)) : List (String × Json) :=
  members.foldl (fun fields member => put member.1 member.2 fields) []

mutual

/-- A value at the very front of the text. -/
def readValue : (fuel : Nat) → List Char → Reading Json
  | 0, text => missed .value text
  | fuel + 1, text =>
    match text with
    | '"' :: rest =>
      match readText rest with
      | .ok (value, rest) => .ok (.str value, rest)
      | .error e => .error e
    | '[' :: rest =>
      match skipSpace rest with
      | ']' :: rest => .ok (.arr [], rest)
      | inside =>
        match readItems fuel inside with
        | .ok (items, rest) => .ok (.arr items, rest)
        | .error e => .error e
    | '{' :: rest =>
      match skipSpace rest with
      | '}' :: rest => .ok (.obj [], rest)
      | inside =>
        match readMembers fuel inside with
        | .ok (members, rest) => .ok (.obj (ofMembers members), rest)
        | .error e => .error e
    | _ => readScalar text

/-- The items of a list, up to its closing bracket. -/
def readItems : (fuel : Nat) → List Char → Reading (List Json)
  | 0, text => missed .value text
  | fuel + 1, text =>
    match readValue fuel text with
    | .error e => .error e
    | .ok (item, rest) =>
      match skipSpace rest with
      | ']' :: rest => .ok ([item], rest)
      | ',' :: rest =>
        match readItems fuel (skipSpace rest) with
        | .ok (items, rest) => .ok (item :: items, rest)
        | .error e => .error e
      | rest => missed .comma rest

/-- The members of an object, up to its closing brace. -/
def readMembers : (fuel : Nat) → List Char → Reading (List (String × Json))
  | 0, text => missed .value text
  | fuel + 1, text =>
    match text with
    | '"' :: rest =>
      match readText rest with
      | .error e => .error e
      | .ok (key, rest) =>
        match skipSpace rest with
        | ':' :: rest =>
          match readValue fuel (skipSpace rest) with
          | .error e => .error e
          | .ok (value, rest) =>
            match skipSpace rest with
            | '}' :: rest => .ok ([(key, value)], rest)
            | ',' :: rest =>
              match readMembers fuel (skipSpace rest) with
              | .ok (members, rest) => .ok ((key, value) :: members, rest)
              | .error e => .error e
            | rest => missed .comma rest
        | rest => missed .colon rest
    | _ => missed .key text

end

/-- Reads a text that holds one document and blanks around it. -/
def read (text : List Char) : Except ReadError Json :=
  match readValue (2 * text.length + 2) (skipSpace text) with
  | .error e => .error e
  | .ok (value, rest) =>
    match skipSpace rest with
    | [] => .ok value
    | rest => missed .end_ rest

/-- Why bytes are no document: they are no text, or the text is none; the text is
kept to tell the place. -/
inductive DocumentError where
  | encoding
  | text (error : ReadError) (text : List Char)

def readBytes (bytes : Bytes) : Except DocumentError Json :=
  match Encoding.read? bytes with
  | none => .error .encoding
  | some text =>
    match read text with
    | .ok document => .ok document
    | .error e => .error (.text e text)

end Provisioning.Json
