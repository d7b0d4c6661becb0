import Provisioning.Failure
import Provisioning.Http.Location
import Provisioning.Settings
import Provisioning.Settings.Environment

/-!
# Reading settings

A setting is given as a value of any kind, or as text. Each field says what it
accepts and what is wrong otherwise; the faults of all fields are reported together,
in the order of the fields. A field is looked for among the given values, then in
the environment, then in a file of assignments.
-/

namespace Provisioning.Settings

/-! ## Fields -/

abbrev Read (α : Type) := Except SettingFault α

def readText : Json → Read String
  | .str text => .ok text
  | _ => .error .stringType

/-- A text that is not empty. -/
def readNonempty (value : Json) : Read String := do
  let text ← readText value
  if text = "" then throw .stringTooShort else return text

/-- A text, or nothing. -/
def readOptional : Json → Read (Option String)
  | .null => .ok none
  | value => (readText value).map some

/-- A location that paths can be appended to. -/
def readBase (value : Json) : Read String :=
  (readText value).map Http.Location.base

def readNonemptyBase (value : Json) : Read String :=
  (readNonempty value).map Http.Location.base

/-- A network by its code. -/
def networkOfCode (code : Option Int) : Read Network :=
  match code.bind Network.ofCode? with
  | some network => .ok network
  | none => .error .notMember

/-- A network by its name in any letter case, or by its code. -/
def readNetwork : Json → Read Network
  | .str text =>
    let name := Text.strip Text.isBlank text.toList
    if name ≠ [] ∧ name.all Text.isDigit then
      match Numeral.int? name with
      | some code => networkOfCode (some code)
      | none =>
        .error (.invalid ("Value error, " ++
          (Fault.integer (Text.quoted (String.ofList name))).message))
    else
      match Network.ofName? (String.ofList (Text.upper name)) with
      | some network => .ok network
      | none => .error (.invalid ("Value error, Unknown network: " ++ String.ofList name))
  | value => networkOfCode value.integer?

/-! ## Numbers -/

/-- A sign and digits without leading zeros. -/
def strictInteger? (text : List Char) : Option Int :=
  let (negative, digits) :=
    match text with
    | '-' :: rest => (true, rest)
    | _ => (false, text)
  if digits ≠ [] ∧ digits.all Numeral.isDigit ∧ (digits = ['0'] ∨ digits.head? ≠ some '0') then
    some (if negative then -(Numeral.ofDigits digits : Int) else Numeral.ofDigits digits)
  else none

/-- Drops zeros, and underscores among them, in front of a numeral; one zero stays
where no other digit follows. -/
def dropZeros (last : Char) : List Char → Option (List Char)
  | [] => some [last]
  | c :: rest =>
    if c = '0' ∨ c = '_' then dropZeros c rest
    else if c = '.' then some (last :: c :: rest)
    else if Numeral.isDigit c then some (c :: rest)
    else none

/-- A numeral without zeros in front; one with a minus stays as it is. -/
def dropLeadingZeros (text : List Char) : Option (List Char) :=
  match text with
  | '0' :: rest => dropZeros '0' rest
  | c :: rest => if Numeral.isDigit c ∨ c = '-' then some (c :: rest) else none
  | [] => none

/-- Drops a plus in front; none if a minus follows it. -/
def dropPlus (text : List Char) : Option (List Char) :=
  match text with
  | '+' :: '-' :: _ => none
  | '+' :: rest => some rest
  | _ => some text

/-- Drops a point with nothing but zeros behind it. -/
def dropZeroFraction (text : List Char) : List Char :=
  match text.dropWhile (· != '.') with
  | _ :: fraction => if fraction.all (· == '0') then text.takeWhile (· != '.') else text
  | [] => text

/-- Whether two underscores stand together. -/
def hasDouble : List Char → Bool
  | '_' :: '_' :: _ => true
  | _ :: rest => hasDouble rest
  | [] => false

/-- Drops underscores, unless one stands at an end or beside another. -/
def dropUnderscores (text : List Char) : List Char :=
  if text.head? = some '_' ∨ text.getLast? = some '_' ∨ hasDouble text then text
  else text.filter (· != '_')

/-- A numeral without what may surround its digits. -/
def cleanInteger (text : List Char) : Option (List Char) := do
  let unmarked ← dropPlus (Numeral.trim text)
  let digits ← dropLeadingZeros unmarked
  return dropUnderscores (dropZeroFraction digits)

/-- An integer from text: plain, or cleaned first. -/
def integerOfText? (text : List Char) : Option Int :=
  match strictInteger? text with
  | some n => some n
  | none => (cleanInteger text).bind strictInteger?

def readInteger : Json → Read Int
  | .bool b => .ok (if b then 1 else 0)
  | .int n => .ok n
  | .float x =>
    match x.integer? with
    | some n => .ok n
    | none => .error .intFromFloat
  | .str text =>
    match integerOfText? text.toList with
    | some n => .ok n
    | none => .error .intParsing
  | _ => .error .intType

/-- An integer greater than zero. -/
def readPositiveInteger (value : Json) : Read Int := do
  let n ← readInteger value
  if 0 < n then return n else throw .notGreater

/-- A number in ASCII, or a word for infinity or for no number. -/
def asciiFloat? (text : List Char) : Option Binary64 :=
  let (negative, body) := Numeral.sign text
  let word := String.ofList (body.map Char.toLower)
  if word = "inf" ∨ word = "infinity" then some (Binary64.infinity negative)
  else if word = "nan" then some Binary64.nan
  else Numeral.unsigned? negative body

/-- A number from text, with blanks around it or underscores in it. -/
def floatOfText? (text : List Char) : Option Binary64 :=
  match asciiFloat? (Numeral.trim text) with
  | some x => some x
  | none => asciiFloat? (dropUnderscores text)

def readFloat : Json → Read Binary64
  | .bool b => .ok (Binary64.ofInt (if b then 1 else 0))
  | .int n => .ok (Binary64.ofInt n)
  | .float x => .ok x
  | .str text =>
    match floatOfText? text.toList with
    | some x => .ok x
    | none => .error .floatParsing
  | _ => .error .floatType

/-- A number that is zero or more. -/
def readDuration (value : Json) : Read Binary64 := do
  let x ← readFloat value
  if Binary64.zero.le x then return x else throw .less

/-- A number greater than zero. -/
def readPositive (value : Json) : Read Binary64 := do
  let x ← readFloat value
  if Binary64.zero.lt x then return x else throw .notGreater

/-! ## Truth values -/

def trueWords : List String := ["1", "true", "t", "yes", "y", "on"]

def falseWords : List String := ["0", "false", "f", "no", "n", "off"]

def boolOfCode : Option Int → Read Bool
  | some 0 => .ok false
  | some 1 => .ok true
  | some _ => .error .boolParsing
  | none => .error .boolType

def readBool : Json → Read Bool
  | .str text =>
    let word := String.ofList (text.toList.map Char.toLower)
    if trueWords.contains word then .ok true
    else if falseWords.contains word then .ok false
    else .error .boolParsing
  | value => boolOfCode value.integer?

/-! ## All fields -/

/-- A value, or all that is wrong with the fields it is made of. -/
structure Checked (α : Type) where
  value : Option α
  errors : List (String × SettingFault)

namespace Checked

def ofRead {α : Type} (field : String) : Read α → Checked α
  | .ok a => ⟨some a, []⟩
  | .error fault => ⟨none, [(field, fault)]⟩

/-- A function and its argument, with the faults of both. -/
def apply {α β : Type} (f : Checked (α → β)) (a : Checked α) : Checked β :=
  ⟨f.value.bind fun f => a.value.map f, f.errors ++ a.errors⟩

instance : Applicative Checked where
  pure a := ⟨some a, []⟩
  seq f a := apply f (a ())

end Checked

/-- A field that must be given. -/
def required {α : Type} (find : String → Option Json) (name : String)
    (read : Json → Read α) : Checked α :=
  match find name with
  | some value => Checked.ofRead name (read value)
  | none => ⟨none, [(name, .missing)]⟩

/-- A field with a value that holds if none is given. -/
def optional {α : Type} (find : String → Option Json) (name : String)
    (read : Json → Read α) (default : α) : Checked α :=
  match find name with
  | some value => Checked.ofRead name (read value)
  | none => ⟨some default, []⟩

/-- The settings that a look-up of given values makes. -/
def checked (find : String → Option Json) : Checked Settings :=
  let d := ofEndpoints "" "" ""
  Settings.mk
    <$> required find "rpc_url" readNonempty
    <*> required find "custody_private_key" readText
    <*> required find "hub_url" readNonemptyBase
    <*> optional find "hub_rpc_auth" readOptional d.hubCredentials
    <*> optional find "recovery_address" readOptional d.recoveryAddress
    <*> optional find "network" readNetwork d.network
    <*> optional find "chain_id" readPositiveInteger d.chainId
    <*> optional find "fname_url" readBase d.nameUrl
    <*> optional find "id_gateway_address" readText d.accountGateway
    <*> optional find "id_registry_address" readText d.accountRegistry
    <*> optional find "key_gateway_address" readText d.keyGateway
    <*> optional find "key_registry_address" readText d.keyRegistry
    <*> optional find "signer_settle_seconds" readDuration d.settleSeconds
    <*> optional find "poll_signer_visibility" readBool d.pollsVisibility
    <*> optional find "signer_visibility_timeout" readDuration d.visibilityTimeout
    <*> optional find "signer_poll_interval" readPositive d.pollInterval
    <*> optional find "verify_supplied_signer" readBool d.verifiesSuppliedKey
    <*> optional find "http_timeout" readPositive d.httpTimeout
    <*> optional find "tx_timeout" readPositive d.transactionTimeout

/-- The names of the settings, in their order. -/
def fieldNames : List String :=
  ["rpc_url", "custody_private_key", "hub_url", "hub_rpc_auth", "recovery_address",
    "network", "chain_id", "fname_url", "id_gateway_address", "id_registry_address",
    "key_gateway_address", "key_registry_address", "signer_settle_seconds",
    "poll_signer_visibility", "signer_visibility_timeout", "signer_poll_interval",
    "verify_supplied_signer", "http_timeout", "tx_timeout"]

/-- The prefix of the variables that hold settings. -/
def variablePrefix : String := "FIDFORGE_"

/-- Where settings come from. -/
structure Sources where
  /-- Values given by name, which come first. -/
  given : List (String × Json)
  environment : List (String × String)
  /-- The text of a file of assignments, if there is one. -/
  file : Option String
  /-- What the names of variables begin with. -/
  marker : String

/-- A setting by name. -/
def Sources.find (sources : Sources) (name : String) : Option Json :=
  match Json.find? name sources.given with
  | some value => some value
  | none =>
    (Environment.content? sources.environment sources.file (sources.marker ++ name)).map .str

/-- The settings that sources give. -/
def ofSources (sources : Sources) : Except Failure Settings :=
  let result := checked sources.find
  match result.errors, result.value with
  | [], some settings => .ok settings
  | errors, _ => .error (.settings errors)

/-- Sets one field, unless the value does not fit it. -/
def assign (settings : Settings) (field : String) (value : Json) : Settings :=
  match field with
  | "verify_supplied_signer" => { settings with verifiesSuppliedKey := value.truthy }
  | "poll_signer_visibility" => { settings with pollsVisibility := value.truthy }
  | "signer_settle_seconds" => assignWith (fun x => { settings with settleSeconds := x })
  | "signer_visibility_timeout" =>
    assignWith (fun x => { settings with visibilityTimeout := x })
  | "signer_poll_interval" => assignWith (fun x => { settings with pollInterval := x })
  | "network" =>
    match networkOfCode value.integer? with
    | .ok network => { settings with network }
    | .error _ => settings
  | _ => settings
where
  assignWith (set : Binary64 → Settings) : Settings :=
    match readFloat value with
    | .ok x => set x
    | .error _ => settings

end Provisioning.Settings
