import Provisioning.Contract.Call

/-!
# Accounts

An owner has at most one account. `Account.ensure` finds it, or registers one for
the address that transactions are sent from, if the balance covers the price.
-/

namespace Provisioning.Account

open Session

/-- The account of an owner; zero is none. -/
def lookup (owner : String) : Action Int := do
  let account ← Chain.read "IdRegistry" "idOf" [.str owner]
  require account.toInt

/-- The argument of an event under a name. -/
def argument (name : String) (event : List (String × Arg)) : Arg :=
  (Arg.find? name event).getD .null

/-- Whether an event names an owner, in whatever letter case. -/
def isFor (owner : String) (event : List (String × Arg)) : Bool :=
  match argument "to" event with
  | .str address => Text.lower address == Text.lower owner
  | _ => false

/-- The event that counts for an owner: the first that names it, else the first of
all. -/
def registration? (owner : String) (events : List (List (String × Arg))) :
    Option (List (String × Arg)) :=
  (events.find? (isFor owner)).or events.head?

/-- Pays for an account and reads its number from the events of the transaction. -/
def register (owner recovery : String) (price : Int) : Action Int := do
  note .info .accounts (s!"Registering fid for {owner} " ++
    s!"(price {Numeral.intText price} wei, recovery {recovery})")
  let receipt ← Chain.transact "IdGateway" "register" [.str recovery] price none
  let events ← Chain.decodeEvents "IdRegistry" "Register" receipt
  match registration? owner events with
  | none => throw (.missingRegistrationEvent receipt.hash owner)
  | some event =>
    let account ← require (argument "id" event).toInt
    note .info .accounts
      s!"Registered fid {Numeral.intText account} for {owner} in tx {receipt.hash}"
    return account

/-- The account of an owner, registered if there is none. -/
def ensure (owner : String) (recovery : Option String) : Action Int := do
  let account ← lookup owner
  if account ≠ 0 then
    note .debug .accounts s!"Owner {owner} already has fid {Numeral.intText account}"
    return account
  else
    let address := (← get).chain.address
    if Text.lower owner ≠ Text.lower address then
      throw (.fault (.refusal (.notCustody owner address)))
    let price ← require (← Chain.read "IdGateway" "price" []).toInt
    let balance ← Chain.balanceOf owner
    if balance = 0 then throw (.noAccountNoFunds owner price)
    if balance < price then throw (.insufficientFunds owner balance price)
    let recovery := (recovery.filter (· ≠ "")).getD owner
    register owner recovery price

end Provisioning.Account
