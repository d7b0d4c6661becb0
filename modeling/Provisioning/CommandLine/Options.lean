import Provisioning.Text.Digit

/-!
# Options of the command line

A command line is a list of words. A word that begins with a dash names an option:
in full, by the beginning of a long name that only one option has, or, behind a
single dash, by letters that stand for options of their own. A value is the next
word, or follows an equals sign; the next word is a value only if it does not itself
look like an option. Whatever is no option and no value makes the line unusable, but
help is given as soon as it is asked for.
-/

namespace Provisioning.CommandLine

/-- What a run is told on the command line. -/
structure Options where
  text : String
  signerKey : Option String
  /-- Whether a ledger in memory and services that accept everything are used. -/
  dryRun : Bool
  verbose : Bool
deriving DecidableEq

/-- What holds unless options say otherwise. -/
def Options.default : Options := ⟨"Hello World!", none, false, false⟩

inductive Switch where
  | help
  | text
  | signerKey
  | dryRun
  | verbose
deriving DecidableEq

namespace Switch

def takesValue : Switch → Bool
  | .text | .signerKey => true
  | _ => false

/-- The long names, without their dashes. -/
def names : List (List Char × Switch) :=
  [("help".toList, .help), ("text".toList, .text), ("signer-key".toList, .signerKey),
    ("dry-run".toList, .dryRun), ("verbose".toList, .verbose)]

def ofLetter? : Char → Option Switch
  | 'h' => some .help
  | 'v' => some .verbose
  | _ => none

/-- The option of a name in full. -/
def ofName? (name : List Char) : Option Switch :=
  (names.find? (·.1 == name)).map (·.2)

/-- The options whose names begin in some way. -/
def beginning (start : List Char) : List Switch :=
  (names.filter fun entry => start.isPrefixOf entry.1).map (·.2)

end Switch

/-! ## Words -/

/-- What a word is by its looks. -/
inductive Word where
  /-- No option; it can be a value. -/
  | plain (text : List Char)
  /-- Two dashes: no option follows. -/
  | divider
  /-- An option, and the value that an equals sign attaches. -/
  | switch (switch : Switch) (attached : Option (List Char))
  /-- The letter of an option, with what follows it in the same word. -/
  | cluster (first : Switch) (tail : List Char)
  /-- It looks like an option and is none. -/
  | unknown

/-- Whether a text is a number behind a dash: digits, or digits on either side of a
point, of which only those behind it are needed. A line end may follow. -/
def isNegativeNumber (text : List Char) : Bool :=
  let isDigit (c : Char) : Bool := (Text.decimalValue? c).isSome
  let text := if text.getLast? = some '\n' then text.dropLast else text
  match text with
  | '-' :: rest =>
    let whole := rest.takeWhile isDigit
    match rest.dropWhile isDigit with
    | [] => !whole.isEmpty
    | '.' :: fraction => !fraction.isEmpty && fraction.all isDigit
    | _ => false
  | _ => false

/-- A word with a dash in front that names no option. -/
def stray (word : List Char) : Word :=
  if isNegativeNumber word || word.contains ' ' then .plain word else .unknown

/-- The name in front of an equals sign. -/
def nameOf (word : List Char) : List Char :=
  word.takeWhile (· != '=')

/-- The value behind an equals sign. -/
def attachedTo (word : List Char) : Option (List Char) :=
  match word.dropWhile (· != '=') with
  | [] => none
  | _ :: value => some value

/-- The looks of a word; none if it could mean several options. -/
def classify (word : List Char) : Option Word :=
  match word with
  | '-' :: '-' :: name =>
    match Switch.ofName? (nameOf name) with
    | some switch => some (.switch switch (attachedTo name))
    | none =>
      match Switch.beginning (nameOf name) with
      | [] => some (stray word)
      | [switch] => some (.switch switch (attachedTo name))
      | _ => none
  | '-' :: letter :: tail =>
    match Switch.ofLetter? letter, tail with
    | none, _ => some (stray word)
    | some switch, [] => some (.switch switch none)
    | some switch, '=' :: value => some (.switch switch (some value))
    | some switch, tail => some (.cluster switch tail)
  | _ => some (.plain word)

/-- The looks of all words; behind a divider all are plain. -/
def classifyAll : List String → Option (List Word)
  | [] => some []
  | word :: rest =>
    if word = "--" then some (.divider :: rest.map fun text => .plain text.toList)
    else
      match classify word.toList, classifyAll rest with
      | some first, some others => some (first :: others)
      | _, _ => none

/-! ## Lines -/

/-- What a command line asks for. -/
inductive Command where
  | run (options : Options)
  | help
  | unusable
deriving DecidableEq

/-- The options that letters stand for, and whether others are left over; none if
the letters make no sense. -/
def letters : List Char → Option (List Switch × Bool)
  | [] => some ([], false)
  | '-' :: _ => none
  | c :: rest =>
    match Switch.ofLetter? c with
    | none => some ([], true)
    | some switch =>
      if rest.head? = some '=' then none
      else (letters rest).map fun (others, left) => (switch :: others, left)

def Options.turnOn (options : Options) : Switch → Options
  | .dryRun => { options with dryRun := true }
  | .verbose => { options with verbose := true }
  | _ => options

def Options.give (options : Options) (switch : Switch) (value : List Char) : Options :=
  match switch with
  | .text => { options with text := String.ofList value }
  | .signerKey => { options with signerKey := some (String.ofList value) }
  | _ => options

/-- Goes through the words of a line. -/
def consume : List Word → (options : Options) → (usable : Bool) → Command
  | [], options, usable => if usable then .run options else .unusable
  | .switch switch none :: rest, options, usable =>
    if switch.takesValue then
      match rest with
      | .plain value :: rest => consume rest (options.give switch value) usable
      | _ => .unusable
    else if switch = .help then .help
    else consume rest (options.turnOn switch) usable
  | .switch switch (some value) :: rest, options, usable =>
    if switch.takesValue then consume rest (options.give switch value) usable
    else .unusable
  | .cluster first tail :: rest, options, usable =>
    match letters tail with
    | none => .unusable
    | some (others, left) =>
      if (first :: others).contains .help then .help
      else consume rest ((first :: others).foldl Options.turnOn options) (usable && !left)
  | .plain _ :: rest, options, _ => consume rest options false
  | .divider :: rest, options, _ => consume rest options false
  | .unknown :: rest, options, _ => consume rest options false

/-- What a command line asks for. -/
def parse (words : List String) : Command :=
  match classifyAll words with
  | none => .unusable
  | some words => consume words Options.default true

end Provisioning.CommandLine
