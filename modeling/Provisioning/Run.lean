import Provisioning.Account
import Provisioning.Authorization
import Provisioning.Naming
import Provisioning.Publication

/-!
# Runs

A run takes an owner from nothing to two published messages: an account, an active
signer, a name, the name on the profile, a post. Each stage begins when the one
before it is done. A run that fails leaves behind what its stages have done, and the
next run finds it.
-/

namespace Provisioning

/-- What a run works with. -/
structure Provisioner where
  settings : Settings
  custody : CustodySigner
  hub : Hub
  authority : NamingAuthority

/-- What a run ends in. -/
structure Provisioned where
  account : Int
  owner : String
  signer : DelegatedSigner
  name : Json
  publications : List Publication

namespace Provisioner

open Session

def ofSettings (settings : Settings) : Except Fault Provisioner := do
  let custody ← CustodySigner.ofKey (.str settings.custodyKey)
  return ⟨settings, custody, Hub.ofUrl settings.hubUrl settings.hubCredentials,
    NamingAuthority.ofUrl settings.nameUrl⟩

/-- The bodies that a run publishes: the name on the profile, then the post. -/
def bodies (name : Json) (text : Json) : Except Fault (List Body) := do
  let profile ← Body.profileUpdate (.int ProfileField.username.code) name
  let post ← Body.newPost text (.arr []) (.arr []) (.arr []) .null
  return [profile, post]

/-- A value fault of a body as a failure of construction. -/
def bodyFailure (account : Json) (fault : Fault) : Failure :=
  if fault.isValue then .messageConstruction account fault.message (some fault)
  else .fault fault

/-- Remembers the signer of a run for the next one. -/
def keep (signer : DelegatedSigner) : Action Unit :=
  modify fun session => { session with kept := some signer }

/-- Publishes the bodies, one after the other. -/
def publishAll (provisioner : Provisioner) (account : Json) (signer : DelegatedSigner) :
    List Body → Action (List Publication)
  | [] => pure []
  | body :: rest => do
    let first ← Publication.publish provisioner.hub body account
      (.int provisioner.settings.network.code) signer .null
    let others ← provisioner.publishAll account signer rest
    return first :: others

/-- The first stage: the account of the owner. -/
def opening (provisioner : Provisioner) : Action Int := do
  let settings := provisioner.settings
  let owner := provisioner.custody.address
  note .info .run s!"Provisioning owner {owner} on {settings.network.name}"
  Account.ensure owner settings.recoveryAddress

/-- Goes through all stages for the custody account. -/
def run (provisioner : Provisioner) (key : Option SigningKey) (text : Json) :
    Action Provisioned := do
  let settings := provisioner.settings
  let custody := provisioner.custody
  let owner := custody.address
  let number ← provisioner.opening
  let account := Json.int number
  let signer ← Authorization.ensure settings custody provisioner.hub account owner key
  keep signer
  let name ← provisioner.authority.ensure custody account owner
  let bodies ←
    match bodies name text with
    | .ok bodies => pure bodies
    | .error fault => throw (bodyFailure account fault)
  let publications ← provisioner.publishAll account signer bodies
  note .info .run (s!"Provisioned fid {account.text} ({name.text}), " ++
    s!"published {publications.length} messages")
  return ⟨number, owner, signer, name, publications⟩

end Provisioner

end Provisioning
