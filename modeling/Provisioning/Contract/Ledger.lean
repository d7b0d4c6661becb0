import Provisioning.Contract.Receipt
import Provisioning.Failure
import Provisioning.Signer.Custody
import Provisioning.Text.Case

/-!
# A ledger in memory

The identity and key registries as one value: who owns which account, which keys
are bound to an account, and what the custody address has left. A call either
changes the ledger as a whole or leaves all but its record and the failures
prepared for it as they were; each call that is sent leaves one record.
-/

namespace Provisioning.Contract

/-- What the key registry knows of a key. -/
inductive KeyState where
  | absent
  | added
  | removed
deriving DecidableEq

namespace KeyState

def code : KeyState → Int
  | .absent => 0
  | .added => 1
  | .removed => 2

def ofCode? : Int → Option KeyState
  | 0 => some .absent
  | 1 => some .added
  | 2 => some .removed
  | _ => none

end KeyState

/-- A key bound to an account. -/
structure KeyEntry where
  account : Int
  key : Bytes
  state : KeyState

structure Ledger where
  /-- The address that calls are sent from. -/
  address : String
  price : Int
  nextAccount : Int
  /-- Balances by address in lower case. -/
  balances : List (String × Int)
  /-- Accounts by owner, in lower case. -/
  accounts : List (String × Int)
  keys : List KeyEntry
  records : List Transaction
  emitsEvents : Bool
  /-- Reasons for which the next call of a function fails. -/
  failures : List ((String × String) × String)
  block : Int

namespace Ledger

/-- The value bound to a key in a finite map. -/
def lookup {α β : Type} [BEq α] (key : α) : List (α × β) → Option β
  | [] => none
  | (k, v) :: rest => if k == key then some v else lookup key rest

/-- Binds a key in a finite map; a bound key keeps its place. -/
def bind {α β : Type} [BEq α] (key : α) (value : β) : List (α × β) → List (α × β)
  | [] => [(key, value)]
  | (k, v) :: rest => if k == key then (k, value) :: rest else (k, v) :: bind key value rest

/-- A finite map without a key. -/
def unbind {α β : Type} [BEq α] (key : α) (map : List (α × β)) : List (α × β) :=
  map.filter fun entry => !(entry.1 == key)

/-- A fresh ledger on which `address` holds a balance. -/
def create (address : String) (balance price nextAccount : Int) : Ledger where
  address := address
  price := price
  nextAccount := nextAccount
  balances := [(Text.lower address, balance)]
  accounts := []
  keys := []
  records := []
  emitsEvents := true
  failures := []
  block := 1

def balanceOf (ledger : Ledger) (address : String) : Int :=
  (lookup (Text.lower address) ledger.balances).getD 0

/-- The account of an owner; zero is none. -/
def accountOf (ledger : Ledger) (owner : String) : Int :=
  (lookup (Text.lower owner) ledger.accounts).getD 0

def findKey (account : Int) (key : Bytes) : List KeyEntry → Option KeyState
  | [] => none
  | entry :: rest =>
    if entry.account = account ∧ entry.key = key then some entry.state
    else findKey account key rest

/-- Sets the state of a key; a known key keeps its place. -/
def putKey (account : Int) (key : Bytes) (state : KeyState) : List KeyEntry → List KeyEntry
  | [] => [⟨account, key, state⟩]
  | entry :: rest =>
    if entry.account = account ∧ entry.key = key then ⟨account, key, state⟩ :: rest
    else entry :: putKey account key state rest

def keyState (ledger : Ledger) (account : Int) (key : Bytes) : KeyState :=
  (findKey account key ledger.keys).getD .absent

/-! ## Arranging a ledger -/

def setBalance (ledger : Ledger) (address : String) (balance : Int) : Ledger :=
  { ledger with balances := bind (Text.lower address) balance ledger.balances }

def setAccount (ledger : Ledger) (owner : String) (account : Int) : Ledger :=
  { ledger with accounts := bind (Text.lower owner) account ledger.accounts }

def setKey (ledger : Ledger) (account : Int) (key : Bytes) (state : KeyState) : Ledger :=
  { ledger with keys := putKey account key state ledger.keys }

def addKey (ledger : Ledger) (account : Int) (key : Bytes) : Ledger :=
  ledger.setKey account key .added

/-- Sets by name the price, the number of the next account, or whether events are
reported. -/
def assign (ledger : Ledger) (name : String) (value : Json) : Ledger :=
  match name with
  | "price" => { ledger with price := (value.integer?).getD ledger.price }
  | "next_fid" => { ledger with nextAccount := (value.integer?).getD ledger.nextAccount }
  | "emit_events" => { ledger with emitsEvents := value.truthy }
  | _ => ledger

/-- Makes the next call of a function fail. -/
def failNext (ledger : Ledger) (contract function reason : String) : Ledger :=
  { ledger with failures := bind (contract, function) reason ledger.failures }

/-! ## Reading -/

/-- Whether a value can be part of a key. -/
def isHashable : Arg → Bool
  | .list _ | .record _ => false
  | _ => true

/-- The state of a key of whatever is given as an account: only integers have
keys. -/
def keyStateOf (ledger : Ledger) (account : Arg) (key : Bytes) : Except Fault KeyState :=
  match account.integer? with
  | some account => .ok (ledger.keyState account key)
  | none =>
    if isHashable account then .ok .absent
    else .error (.kind s!"unhashable type: '{account.kindName}'")

/-- The account of whatever is given as an owner. -/
def accountOfArg (ledger : Ledger) : Arg → Except Fault Int
  | .str owner => .ok (ledger.accountOf owner)
  | .bytes _ => .ok 0
  | other => .error (.operation s!"'{other.kindName}' object has no attribute 'lower'")

/-- Calls a function that only reads. -/
def read (ledger : Ledger) (contract function : String) (args : List Arg) :
    Except Fault Arg :=
  match contract, function with
  | "IdRegistry", "idOf" =>
    match args with
    | [owner] => (ledger.accountOfArg owner).map .int
    | _ => .error (.kind "one argument is due")
  | "IdGateway", "price" =>
    match args with
    | [] => .ok (.int ledger.price)
    | _ => .error (.kind "no argument is due")
  | "KeyRegistry", "keyDataOf" =>
    match args with
    | [account, key] => do
      let state ← ledger.keyStateOf account (← key.toBytes)
      return .list [.int state.code, .int 1]
    | _ => .error (.kind "two arguments are due")
  | _, _ => .error (.refusal (.unknownView contract function))

/-! ## Transactions -/

/-- At least sixty-four hexadecimal digits for the number of a record. -/
def hashOf (number : Nat) : String :=
  let digits := Nat.toDigits 16 number
  "0x" ++ String.ofList (List.replicate (64 - digits.length) '0' ++ digits)

/-- What a call ends in, beside the ledger. -/
abbrev Outcome := Except Failure (List Event)

def reverted (contract function reason hash : String) : Failure :=
  .chainTransaction contract function reason (some hash) none

/-- Registers an account for the address, against the price. -/
def register (ledger : Ledger) (recovery : Arg) (value : Int) (hash : String) :
    Outcome × Ledger :=
  let fail (reason : String) : Outcome × Ledger :=
    (.error (reverted "IdGateway" "register" reason hash), ledger)
  if ledger.accountOf ledger.address ≠ 0 then fail "HasId"
  else if value < ledger.price then fail "InsufficientPayment"
  else if ledger.balanceOf ledger.address < value then fail "insufficient funds"
  else
    let account := ledger.nextAccount
    let balance := ledger.balanceOf ledger.address - ledger.price
    (.ok [⟨"IdRegistry", "Register",
        [("to", .str ledger.address), ("id", .int account), ("recovery", recovery)]⟩],
      { (ledger.setBalance ledger.address balance).setAccount ledger.address account with
        nextAccount := account + 1 })

/-- The parts of key metadata: the account, the signature and the deadline. -/
def metadataParts (metadata : Arg) : Except Fault (Int × Bytes × Int) :=
  match metadata with
  | .bytes bytes =>
    match Abi.decode KeyRequest.metadataKinds bytes with
    | .ok [.list [.int account, _, .bytes signature, .int deadline]] =>
      .ok (account, signature, deadline)
    | .ok _ => .error (.abi .shortData)
    | .error fault => .error (.abi fault)
  | other => .error (.kind s!"a byte string is due, not '{other.kindName}'")

/-- Whether a key may be bound to the account of the address; `now` is the time. -/
def checkKey (ledger : Ledger) (now : Except Fault Int) (keyType key metadataType metadata : Arg)
    (hash : String) : Except Failure (Int × Bytes) := do
  let refuse (reason : String) : Except Failure (Int × Bytes) :=
    .error (reverted "KeyGateway" "add" reason hash)
  let account := ledger.accountOf ledger.address
  if account = 0 then refuse "HasNoId"
  else if keyType.integer? ≠ some 1 ∨ metadataType.integer? ≠ some 1 then
    refuse "InvalidKeyType"
  else
    let (requested, signature, deadline) ← (metadataParts metadata).mapError Failure.fault
    if requested ≠ account ∨ signature = [] then refuse "InvalidMetadata"
    else
      let now ← now.mapError Failure.fault
      if deadline < now then refuse "SignatureExpired"
      else
        let key ← key.toBytes.mapError Failure.fault
        if ledger.keyState account key = .added then refuse "InvalidState"
        else return (account, key)

/-- Binds a key to the account of the address. -/
def add (ledger : Ledger) (now : Except Fault Int) (args : List Arg) (hash : String) :
    Outcome × Ledger :=
  match args with
  | [keyType, key, metadataType, metadata] =>
    match ledger.checkKey now keyType key metadataType metadata hash with
    | .ok (account, bytes) =>
      (.ok [⟨"KeyRegistry", "Add",
          [("fid", .int account), ("keyType", keyType), ("keyBytes", .bytes bytes)]⟩],
        ledger.addKey account bytes)
    | .error failure => (.error failure, ledger)
  | _ => (.error (.fault (.kind "four arguments are due")), ledger)

/-- What a recorded call does, when nothing is prepared to make it fail. -/
def perform (ledger : Ledger) (now : Except Fault Int) (contract function : String)
    (args : List Arg) (value : Int) (hash : String) : Outcome × Ledger :=
  match contract, function with
  | "IdGateway", "register" =>
    match args with
    | recovery :: _ => ledger.register recovery value hash
    | [] => (.error (.fault .tooFew), ledger)
  | "KeyGateway", "add" => ledger.add now args hash
  | _, _ => (.error (.fault (.refusal (.unknownFunction contract function))), ledger)

/-- Sends a call. It is recorded first; a prepared failure is used up by it; if it
succeeds it makes a block. -/
def transact (ledger : Ledger) (now : Except Fault Int) (contract function : String)
    (args : List Arg) (value : Int) : Except Failure Receipt × Ledger :=
  let hash := hashOf (ledger.records.length + 1)
  let record : Transaction := ⟨contract, function, args, value, hash⟩
  let recorded := { ledger with records := ledger.records ++ [record] }
  match lookup (contract, function) recorded.failures with
  | some reason =>
    (.error (reverted contract function reason hash),
      { recorded with failures := unbind (contract, function) recorded.failures })
  | none =>
    match recorded.perform now contract function args value hash with
    | (.ok events, after) =>
      let block := after.block + 1
      (.ok ⟨hash, 1, block, .events (if after.emitsEvents then events else [])⟩,
        { after with block })
    | (.error failure, after) => (.error failure, after)

end Ledger

end Provisioning.Contract
