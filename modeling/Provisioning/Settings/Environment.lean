import Provisioning.Json
import Provisioning.Text.Blank
import Provisioning.Text.Case

/-!
# Variables of the environment

Settings may stand in the environment or in a file of assignments. A line of such a
file is a name, an equals sign and a value: behind an optional `export`, with blanks
around the sign, in quotes of either kind or without, up to a comment behind a blank.
A name without the sign has no value. A value may refer to others by `$\x7bNAME\x7d`. Names
are compared without regard to letter case, and empty values do not count.
-/

namespace Provisioning.Environment

/-- Whether a character is a blank within a line. -/
def isGap (c : Char) : Bool :=
  Text.isBlank c && c != '\n' && c != '\r'

def isLineEnd (c : Char) : Bool :=
  c == '\n' || c == '\r'

/-! ## Values -/

/-- What stands behind a backslash for a control character. -/
def controlOf (c : Char) : Char :=
  match c with
  | 'a' => Char.ofNat 7
  | 'b' => Char.ofNat 8
  | 'f' => Char.ofNat 12
  | 'n' => '\n'
  | 'r' => '\r'
  | 't' => '\t'
  | 'v' => Char.ofNat 11
  | _ => c

/-- Resolves the pairs of a backslash and one of the given characters. -/
def unescape (escapable : List Char) : List Char → List Char
  | '\\' :: c :: rest =>
    if escapable.contains c then controlOf c :: unescape escapable rest
    else '\\' :: unescape escapable (c :: rest)
  | c :: rest => c :: unescape escapable rest
  | [] => []

def escapable (quote : Char) : List Char :=
  if quote = '"' then ['\\', '\'', '"', 'a', 'b', 'f', 'n', 'r', 't', 'v']
  else ['\\', '\'']

/-- The text up to a closing quote, and what follows it; a backslash before a quote
keeps it from closing. -/
def quotedPart (quote : Char) : List Char → Option (List Char × List Char)
  | [] => none
  | '\\' :: c :: rest =>
    if c = quote then
      match quotedPart quote rest with
      | some (part, tail) => some ('\\' :: c :: part, tail)
      | none => some (['\\'], rest)
    else (quotedPart quote (c :: rest)).map fun (part, tail) => ('\\' :: part, tail)
  | c :: rest =>
    if c = quote then some ([], rest)
    else (quotedPart quote rest).map fun (part, tail) => (c :: part, tail)

/-- Cuts a comment off, which begins at a number sign behind a blank. -/
def dropComment : List Char → List Char
  | [] => []
  | c :: rest =>
    if Text.isBlank c && (rest.dropWhile Text.isBlank).head? = some '#' then []
    else c :: dropComment rest

/-- A value without quotes, up to the end of the line. -/
def plainValue (line : List Char) : List Char :=
  Text.stripRight Text.isBlank (dropComment line)

/-- What is read from the start of a text, and the rest; or where reading stopped. -/
abbrev Part (α : Type) := Except (List Char) (α × List Char)

def value (text : List Char) : Part (List Char) :=
  match text with
  | [] => .ok ([], [])
  | c :: rest =>
    if c = '\'' ∨ c = '"' then
      match quotedPart c rest with
      | some (part, tail) => .ok (unescape (escapable c) part, tail)
      | none => .error text
    else if isLineEnd c then .ok ([], text)
    else
      .ok (plainValue (text.takeWhile fun c => !isLineEnd c),
        text.dropWhile fun c => !isLineEnd c)

/-! ## Lines -/

/-- Line ends of every kind as line feeds. -/
def unifyLines : List Char → List Char
  | '\r' :: '\n' :: rest => '\n' :: unifyLines rest
  | '\r' :: rest => '\n' :: unifyLines rest
  | c :: rest => c :: unifyLines rest
  | [] => []

/-- Drops the word that marks a name for other programs. -/
def dropExport (text : List Char) : List Char :=
  match text with
  | 'e' :: 'x' :: 'p' :: 'o' :: 'r' :: 't' :: c :: rest =>
    if isGap c then rest.dropWhile isGap else text
  | _ => text

/-- What a name without quotes may hold. -/
def isNamePart (c : Char) : Bool :=
  c != '=' && c != '#' && !Text.isBlank c

/-- A name, in quotes or without; a comment is a line without one. -/
def name (text : List Char) : Part (Option (List Char)) :=
  match text with
  | '#' :: _ => .ok (none, text)
  | '\'' :: rest =>
    let name := rest.takeWhile (· != '\'')
    match rest.dropWhile (· != '\'') with
    | _ :: tail => if name = [] then .error text else .ok (some name, tail)
    | [] => .error text
  | _ =>
    let name := text.takeWhile isNamePart
    if name = [] then .error text else .ok (some name, text.dropWhile isNamePart)

/-- The text behind the end of a line, if nothing but a comment comes before it. -/
def endLine (text : List Char) : Except (List Char) (List Char) :=
  let rest := text.dropWhile isGap
  let rest := if rest.head? = some '#' then rest.dropWhile fun c => !isLineEnd c else rest
  match rest with
  | [] => .ok []
  | c :: tail => if isLineEnd c then .ok tail else .error rest

/-- The value behind a name, if there is an equals sign. -/
def assigned (text : List Char) : Part (Option (List Char)) :=
  match text.dropWhile isGap with
  | '=' :: tail => (value (tail.dropWhile isGap)).map fun (value, rest) => (some value, rest)
  | rest => .ok (none, rest)

/-- The name and the value in the line at the start of a text. -/
def assignment (text : List Char) :
    Except (List Char) ((Option (List Char) × Option (List Char)) × List Char) := do
  let (name, rest) ← name (dropExport text)
  let (value, rest) ← assigned rest
  return ((name, value), ← endLine rest)

/-- Drops the line at the start of a text. -/
def dropLine (text : List Char) : List Char :=
  (text.dropWhile fun c => !isLineEnd c).drop 1

/-- The assignments in a text; the rest of a line that is none is passed over. `lines`
bounds their number. -/
def assignments : (lines : Nat) → List Char → List (String × Option (List Char))
  | 0, _ => []
  | lines + 1, text =>
    match text.dropWhile Text.isBlank with
    | [] => []
    | text =>
      match assignment text with
      | .ok ((some name, value), rest) =>
        (String.ofList name, value) :: assignments lines rest
      | .ok ((none, _), rest) => assignments lines rest
      | .error rest => assignments lines (dropLine rest)

/-! ## References -/

/-- Splits a reference at the start of a text: its name, what stands for a name
without a value, and what follows. -/
def reference? (text : List Char) : Option (List Char × List Char × List Char) :=
  match text with
  | '$' :: '{' :: rest =>
    let name := rest.takeWhile fun c => c != '}' && c != ':'
    match rest.dropWhile fun c => c != '}' && c != ':' with
    | '}' :: tail => some (name, [], tail)
    | ':' :: '-' :: tail =>
      match tail.dropWhile (· != '}') with
      | _ :: after => some (name, tail.takeWhile (· != '}'), after)
      | [] => none
    | _ => none
  | _ => none

/-- Replaces the references in a value; `steps` bounds its length. -/
def expand (find : String → Option String) : (steps : Nat) → List Char → List Char
  | 0, text => text
  | _, [] => []
  | steps + 1, c :: rest =>
    match reference? (c :: rest) with
    | some (name, default, tail) =>
      ((find (String.ofList name)).map String.toList).getD default ++ expand find steps tail
    | none => c :: expand find steps rest

/-- Binds a name; a bound name keeps its place. -/
def bind (name : String) (value : Option String) :
    List (String × Option String) → List (String × Option String)
  | [] => [(name, value)]
  | (n, v) :: rest => if n = name then (n, value) :: rest else (n, v) :: bind name value rest

def find (name : String) : List (String × Option String) → Option String
  | [] => none
  | (n, v) :: rest => if n = name then v else find name rest

/-- The variables that the assignments of a file make. References see the variables
before them, an empty text where one has no value, then the environment. -/
def ofFile (environment : List (String × String)) (text : String) :
    List (String × Option String) :=
  let lookup (known : List (String × Option String)) (name : String) : Option String :=
    if known.any (·.1 == name) then some ((find name known).getD "")
    else find name (environment.map fun (n, v) => (n, some v))
  (assignments (text.length + 1) (unifyLines text.toList)).foldl (fun known (name, value) =>
    let value := value.map fun chars =>
      String.ofList (expand (lookup known) (chars.length + 1) chars)
    bind name value known) []

/-- The variables whose values count, by name in lower case. -/
def named (given : List (String × Option String)) : List (String × Option String) :=
  (given.filter (·.2 != some "")).foldl
    (fun known (name, value) => bind (Text.lower name) value known) []

/-- What a variable holds, in the environment or else in a file. -/
def content? (environment : List (String × String)) (file : Option String) (name : String) :
    Option String :=
  let name := Text.lower name
  let here := named (environment.map fun (n, v) => (n, some v))
  let there := named ((file.map (ofFile environment)).getD [])
  (find name here).or (find name there)

end Provisioning.Environment
