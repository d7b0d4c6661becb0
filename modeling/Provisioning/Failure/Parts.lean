import Provisioning.Failure

/-!
# Failures by their parts

A provisioning failure can be put together from the values of its parts, given in
their order or by name; some parts may be left out. `Failure.ofParts` refuses values
that do not fit.
-/

namespace Provisioning.Failure

/-- The names of a failure's parts, with the values of those that may be left out. -/
def parts? : String → Option (List (String × Option Arg))
  | "InsufficientFunds" => some [("owner", none), ("balance", none), ("price", none)]
  | "NoAccountNoFunds" => some [("owner", none), ("price", none)]
  | "MissingRegistrationEvent" => some [("tx_hash", none), ("owner", none)]
  | "ChainTransactionFailed" =>
    some [("contract", none), ("function", none), ("reason", none), ("tx_hash", some .null)]
  | "SignerAuthorizationFailed" =>
    some [("fid", none), ("public_key", none), ("reason", none)]
  | "NameRegistrationFailed" =>
    some [("fid", none), ("name", none), ("status", none), ("body", none)]
  | "MessageConstructionFailed" => some [("reason", none), ("fid", some .null)]
  | "MessageRejected" =>
    some [("reason", none), ("status", none), ("message_hash", some .null)]
  | _ => none

def unfitting : Fault := .kind "the arguments do not fit"

/-- Binds values to the names of parts: each name at most once, none that is not a
part's, and all that may not be left out. -/
def bindParts (parts : List (String × Option Arg)) (args : List Arg)
    (named : List (String × Arg)) : Except Fault (List (String × Arg)) := do
  let names := parts.map (·.1)
  if names.length < args.length then throw unfitting
  if named.any fun (name, _) => !(names.drop args.length).contains name then throw unfitting
  let given := List.zip names args ++ named
  parts.mapM fun (name, default) =>
    match (Arg.find? name given).or default with
    | some value => .ok (name, value)
    | none => .error unfitting

/-- The text of a value in a sentence. -/
def sentenceText (value : Arg) : String :=
  value.toJson.text

def textPart (name : String) (parts : List (String × Arg)) : String :=
  sentenceText ((Arg.find? name parts).getD .null)

def optionalPart (name : String) (parts : List (String × Arg)) : Option String :=
  match (Arg.find? name parts).getD .null with
  | .null => none
  | value => some (sentenceText value)

def numberPart (name : String) (parts : List (String × Arg)) : Int :=
  (((Arg.find? name parts).bind Arg.integer?).getD 0)

def bytesPart (name : String) (parts : List (String × Arg)) : Except Fault Bytes :=
  match Arg.find? name parts with
  | some (.bytes bytes) => .ok bytes
  | _ => .error (.operation "no byte string")

def accountPart (parts : List (String × Arg)) : Json :=
  ((Arg.find? "fid" parts).getD .null).toJson

/-- The failure with the given parts, by the name of its kind. -/
def ofParts (kind : String) (parts : List (String × Arg)) : Except Fault Failure := do
  match kind with
  | "InsufficientFunds" =>
    return .insufficientFunds (textPart "owner" parts) (numberPart "balance" parts)
      (numberPart "price" parts)
  | "NoAccountNoFunds" =>
    return .noAccountNoFunds (textPart "owner" parts) (numberPart "price" parts)
  | "MissingRegistrationEvent" =>
    return .missingRegistrationEvent (textPart "tx_hash" parts) (textPart "owner" parts)
  | "ChainTransactionFailed" =>
    return .chainTransaction (textPart "contract" parts) (textPart "function" parts)
      (textPart "reason" parts) (optionalPart "tx_hash" parts) none
  | "SignerAuthorizationFailed" =>
    return .signerAuthorization (accountPart parts) (← bytesPart "public_key" parts)
      (textPart "reason" parts) none
  | "NameRegistrationFailed" =>
    return .nameRegistration (accountPart parts) (optionalPart "name" parts)
      (numberPart "status" parts) (textPart "body" parts) none
  | "MessageConstructionFailed" =>
    return .messageConstruction (accountPart parts) (textPart "reason" parts) none
  | "MessageRejected" =>
    let hash ←
      match Arg.find? "message_hash" parts with
      | none | some .null => pure none
      | some _ => some <$> bytesPart "message_hash" parts
    return .messageRejected (textPart "reason" parts) (numberPart "status" parts) hash
  | _ => throw unfitting

/-- A general failure: its message, in the first place or by name, and whatever else
is named. -/
def generalOf (args : List Arg) (named : List (String × Arg)) : Except Fault Failure :=
  match args, Arg.find? "message" named with
  | [message], none => .ok (.general (sentenceText message) named)
  | [], some message =>
    .ok (.general (sentenceText message) (named.filter (·.1 != "message")))
  | _, _ => .error unfitting

/-- A failure of a kind from values, and what it is made of, by name. A balance
that can only be zero is not given. -/
def ofArguments (kind : String) (args : List Arg) (named : List (String × Arg)) :
    Except Fault (Failure × List (String × Arg)) := do
  match parts? kind with
  | none => return (← generalOf args named, [])
  | some parts =>
    let parts ← bindParts parts args named
    let fixed := if kind = "NoAccountNoFunds" then [("balance", Arg.int 0)] else []
    return (← ofParts kind parts, parts ++ fixed)

/-- The kinds that a kind of failure belongs to, the most special one first. -/
def lineage (kind : String) : List String :=
  if kind = "ProvisioningError" then [kind]
  else if kind = "NoAccountNoFunds" then [kind, "InsufficientFunds", "ProvisioningError"]
  else [kind, "ProvisioningError"]

end Provisioning.Failure
