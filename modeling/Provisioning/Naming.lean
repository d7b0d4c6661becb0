import Provisioning.Session
import Provisioning.Signer.Custody

/-!
# Names

A naming authority knows at most one name of an account. `NamingAuthority.ensure` asks for
it, and claims the name made from the account's number if there is none. A claim is
a transfer from nobody, signed by the owner.
-/

namespace Provisioning

/-- Where names are asked for and claimed. -/
structure NamingAuthority where
  /-- The location that paths are appended to. -/
  base : String

namespace NamingAuthority

open Session

def ofUrl (url : String) : NamingAuthority :=
  ⟨Http.Location.base url⟩

/-- The name of an account that has claimed no other. -/
def fallbackName (account : Json) : String :=
  "fid-" ++ account.text

/-- The name in a document, if one is given: that of the transfer in it, or its
own. -/
def username? (document : Json) : Option Json :=
  match document with
  | .obj fields =>
    match (Json.find? "transfer" fields).getD document with
    | .obj transfer => (Json.find? "username" transfer).filter Json.truthy
    | _ => none
  | _ => none

def failure (account : Json) (name : Option String) (response : Http.Response)
    (cause : Option Fault) : Failure :=
  .nameRegistration account name response.status response.text cause

/-- The name that the authority knows of an account. -/
def lookup (authority : NamingAuthority) (account : Json) : Action (Option Json) := do
  let response ← getDocument (authority.base ++ "/transfers/current")
    [("fid", account.text)] []
  if response.status = 404 then return none
  else if !response.ok then throw (failure account none response none)
  else
    match response.document with
    | .ok document => return username? document
    | .error error => throw (failure account none response (some (.document error)))

/-- The record of a claim. -/
def transfer (account : Json) (owner name : String) (timestamp : Int) (signature : Bytes) :
    Json :=
  .obj [("name", .str name), ("from", .int 0), ("to", account), ("fid", account),
    ("owner", .str owner), ("timestamp", .int timestamp),
    ("signature", .str (Hex.marked signature))]

/-- Claims the fallback name for an account. -/
def claim (authority : NamingAuthority) (custody : CustodySigner) (account : Json)
    (owner : String) : Action String := do
  let name := fallbackName account
  let timestamp ← unixTime
  let signature ← require (UsernameProof.sign custody (.str name) (.int timestamp) (.str owner))
  note .info .naming s!"Claiming name {Text.quoted name} for fid {account.text}"
  let response ← post (authority.base ++ "/transfers")
    (transfer account owner name timestamp signature).plainBytes
    [("Content-Type", "application/json")]
  if !response.ok then throw (failure account (some name) response none)
  note .info .naming s!"Name {Text.quoted name} registered for fid {account.text}"
  return name

/-- The name of an account, claimed if there is none. -/
def ensure (authority : NamingAuthority) (custody : CustodySigner) (account : Json)
    (owner : String) : Action Json := do
  match ← lookup authority account with
  | some name =>
    note .debug .naming s!"fid {account.text} already owns name {name.shown}"
    return name
  | none =>
    if Text.lower owner ≠ Text.lower custody.address then
      throw (.fault (.refusal (.notCustody owner custody.address)))
    return .str (← authority.claim custody account owner)

end NamingAuthority

end Provisioning
