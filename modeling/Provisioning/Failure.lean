import Provisioning.Arg

/-!
# Failures of a session

What a stage of a session can end in. The provisioning failures name the account,
the amounts, the transaction or the reply that tell them apart, and `context` lists
these by name. Where a failure stands for another one, that one is its cause. Main
statement: `Failure.message` words each failure.
-/

namespace Provisioning

/-- Why a call of a node failed, where the node or its answer is to blame. -/
inductive NodeFault where
  /-- The node answers with an error. -/
  | rpc
  /-- The node does not know the method. -/
  | unavailable
  /-- The contract refuses. -/
  | reverted
  /-- The contract refuses with data of its own. -/
  | customRevert
  | badOutput
  | chainMismatch
  | connection
  | timeout
  /-- A number or a text is malformed. -/
  | value
  /-- A text is not hexadecimal. -/
  | digits
  /-- A byte string has the wrong size. -/
  | size
  /-- No byte string is there. -/
  | noBytes
  /-- The spelling of an address has no checksum. -/
  | spelling
  | noBlock
  | receiptTimeout
deriving DecidableEq

/-- Whether it is the contract that refuses. -/
def NodeFault.isRevert (fault : NodeFault) : Bool :=
  fault = .reverted || fault = .customRevert

/-- What is wrong with a setting. -/
inductive SettingFault where
  | missing
  | stringType
  | stringTooShort
  | notMember
  | invalid (text : String)
  | intType
  | intParsing
  | intFromFloat
  | floatType
  | floatParsing
  | boolType
  | boolParsing
  | notGreater
  | less
deriving DecidableEq

/-- The short name of what is wrong. -/
def SettingFault.name : SettingFault → String
  | .missing => "missing"
  | .stringType => "string_type"
  | .stringTooShort => "string_too_short"
  | .notMember => "enum"
  | .invalid _ => "value_error"
  | .intType => "int_type"
  | .intParsing => "int_parsing"
  | .intFromFloat => "int_from_float"
  | .floatType => "float_type"
  | .floatParsing => "float_parsing"
  | .boolType => "bool_type"
  | .boolParsing => "bool_parsing"
  | .notGreater => "greater_than"
  | .less => "greater_than_equal"

inductive Failure where
  /-- A given value cannot be used. -/
  | fault (e : Fault)
  /-- Settings cannot be used: the fields with what is wrong, in their order. -/
  | settings (errors : List (String × SettingFault))
  | general (message : String) (context : List (String × Arg))
  | insufficientFunds (owner : String) (balance price : Int)
  | noAccountNoFunds (owner : String) (price : Int)
  | missingRegistrationEvent (txHash owner : String)
  | chainTransaction (contract function reason : String) (txHash : Option String)
      (cause : Option NodeFault)
  | signerAuthorization (account : Json) (publicKey : Bytes) (reason : String)
      (cause : Option Failure)
  | nameRegistration (account : Json) (name : Option String) (status : Int) (body : String)
      (cause : Option Fault)
  | messageConstruction (account : Json) (reason : String) (cause : Option Fault)
  | messageRejected (reason : String) (status : Int) (hash : Option Bytes)
  /-- The hub answered a query with an error. -/
  | hub (message : String)
  /-- No response was had. -/
  | transport (method url reason : String) (cause : Option String)

namespace Failure

/-- The hash of a message as texts show it; an empty one is none. -/
def hashText (hash : Option Bytes) : Option String :=
  match hash with
  | some (byte :: rest) => some (Hex.marked (byte :: rest))
  | _ => none

def fundsMessage (owner : String) (balance price : Int) : String :=
  s!"Insufficient funds for {owner}: balance {Numeral.intText balance} wei < price " ++
    s!"{Numeral.intText price} wei"

def message : Failure → String
  | .fault e => e.message
  | .settings errors =>
    let count := errors.length
    s!"{count} validation error" ++ (if count = 1 then "" else "s") ++
      " for ProvisioningConfig"
  | .general message _ => message
  | .insufficientFunds owner balance price => fundsMessage owner balance price
  | .noAccountNoFunds owner price =>
    s!"No account and no funds for {owner}: fund it with at least {Numeral.intText price} wei"
  | .missingRegistrationEvent txHash owner =>
    s!"Register event missing from tx {txHash} (owner {owner})"
  | .chainTransaction contract function reason txHash _ =>
    let txPart :=
      match txHash with
      | some hash => if hash = "" then "" else s!" (tx {hash})"
      | none => ""
    s!"{contract}.{function} failed{txPart}: {reason}"
  | .signerAuthorization account publicKey reason _ =>
    s!"Signer {Hex.marked publicKey} not authorized for fid {account.text}: {reason}"
  | .nameRegistration account name status body _ =>
    let shown :=
      match name with
      | some name => Text.quoted name
      | none => "None"
    s!"Name registration failed for fid {account.text} (name={shown}): HTTP " ++
      s!"{Numeral.intText status}: {body}"
  | .messageConstruction account reason _ =>
    s!"Message construction failed (fid {account.text}): {reason}"
  | .messageRejected reason status hash =>
    let shown := (hashText hash).getD "None"
    s!"Message {shown} rejected: HTTP " ++
      s!"{Numeral.intText status}: {reason}"
  | .hub message => message
  | .transport method url reason _ => s!"{method} {url} failed: {reason}"

def textOr : Option String → Arg
  | some text => .str text
  | none => .null

/-- The particulars of a provisioning failure, by name; other failures have none. -/
def context? : Failure → Option (List (String × Arg))
  | .general _ context => some context
  | .insufficientFunds owner balance price =>
    some [("owner", .str owner), ("balance", .int balance), ("price", .int price)]
  | .noAccountNoFunds owner price =>
    some [("owner", .str owner), ("balance", .int 0), ("price", .int price)]
  | .missingRegistrationEvent txHash owner =>
    some [("tx_hash", .str txHash), ("owner", .str owner)]
  | .chainTransaction contract function reason txHash _ =>
    some [("contract", .str contract), ("function", .str function), ("reason", .str reason),
      ("tx_hash", textOr txHash)]
  | .signerAuthorization account publicKey reason _ =>
    some [("fid", Arg.ofJson account), ("public_key", .str (Hex.marked publicKey)),
      ("reason", .str reason)]
  | .nameRegistration account name status body _ =>
    some [("fid", Arg.ofJson account), ("name", textOr name), ("status", .int status),
      ("body", .str body)]
  | .messageConstruction account reason _ =>
    some [("fid", Arg.ofJson account), ("reason", .str reason)]
  | .messageRejected reason status hash =>
    some [("reason", .str reason), ("status", .int status),
      ("message_hash", textOr (hashText hash))]
  | _ => none

/-- The failures that the program documents for a run. -/
def isProvisioning (failure : Failure) : Bool :=
  failure.context?.isSome

end Failure

end Provisioning
