import Provisioning.Contract.Ledger
import Provisioning.Proofs.Except

/-!
# What a call does to a ledger

`Ledger.transact_inv` says all that a call can do: it fails and leaves the registries as
they were, or it registers an account for the address, or it binds a key to the account
of the address. Whatever it does, it leaves one record (`Ledger.records_transact`).
-/

namespace Provisioning.Contract.Ledger

/-! ## Finite maps -/

section Maps

variable {α β : Type} [BEq α] [LawfulBEq α]

theorem lookup_bind (key : α) (value : β) (map : List (α × β)) :
    lookup key (bind key value map) = some value := by
  induction map with
  | nil => simp [bind, lookup]
  | cons entry rest ih =>
    by_cases same : (entry.1 == key) = true
    · simp [bind, lookup, same]
    · simp [bind, lookup, same, ih]

theorem lookup_bind_of_ne {key key' : α} (other : key ≠ key') (value : β) (map : List (α × β)) :
    lookup key' (bind key value map) = lookup key' map := by
  induction map with
  | nil => simp [bind, lookup, other]
  | cons entry rest ih =>
    by_cases same : (entry.1 == key) = true
    · have differs : (entry.1 == key') = false := by
        rw [eq_of_beq same]
        exact beq_false_of_ne other
      simp [bind, lookup, same, differs]
    · simp [bind, lookup, same, ih]

end Maps

theorem findKey_putKey (account : Int) (key : Bytes) (state : KeyState)
    (entries : List KeyEntry) :
    findKey account key (putKey account key state entries) = some state := by
  induction entries with
  | nil => simp [putKey, findKey]
  | cons entry rest ih =>
    by_cases same : entry.account = account ∧ entry.key = key
    · simp [putKey, findKey, same]
    · rw [putKey, if_neg same, findKey, if_neg same, ih]

/-! ## Calls -/

/-- Two states of a ledger with the same registries, balances, prices and blocks. -/
structure SameRegistries (before after : Ledger) : Prop where
  address : after.address = before.address
  price : after.price = before.price
  nextAccount : after.nextAccount = before.nextAccount
  balances : after.balances = before.balances
  accounts : after.accounts = before.accounts
  keys : after.keys = before.keys
  block : after.block = before.block

variable {ledger after : Ledger} {now : Except Fault Int} {contract function : String}
variable {args : List Arg} {value : Int} {hash : String}

/-- The event of a registration. -/
def registration (ledger : Ledger) (recovery : Arg) : Event :=
  ⟨"IdRegistry", "Register",
    [("to", .str ledger.address), ("id", .int ledger.nextAccount), ("recovery", recovery)]⟩

/-- What a call can do to a ledger, and what it ends in. -/
inductive Transacted (ledger : Ledger) (contract function : String) (args : List Arg) :
    Except Failure Receipt → Ledger → Prop where
  | failed {failure : Failure} {after : Ledger} (same : SameRegistries ledger after) :
    Transacted ledger contract function args (.error failure) after
  | registered {recovery : Arg} {rest : List Arg} {receipt : Receipt} {after : Ledger}
      (isContract : contract = "IdGateway") (isFunction : function = "register")
      (isArgs : args = recovery :: rest)
      (unregistered : ledger.accountOf ledger.address = 0)
      (address : after.address = ledger.address) (keys : after.keys = ledger.keys)
      (accounts : after.accounts =
        bind (Text.lower ledger.address) ledger.nextAccount ledger.accounts)
      (logs : receipt.logs =
        .events (if ledger.emitsEvents then [ledger.registration recovery] else []))
      (funded : ledger.price ≤ ledger.balanceOf ledger.address)
      (balances : after.balances = bind (Text.lower ledger.address)
        (ledger.balanceOf ledger.address - ledger.price) ledger.balances)
      (price : after.price = ledger.price)
      (nextAccount : after.nextAccount = ledger.nextAccount + 1)
      (block : after.block = ledger.block + 1) (included : receipt.block = some after.block) :
    Transacted ledger contract function args (.ok receipt) after
  | keyBound {keyType keyArg metadataType metadata : Arg} {key : Bytes} {receipt : Receipt}
      {after : Ledger} (isContract : contract = "KeyGateway") (isFunction : function = "add")
      (isArgs : args = [keyType, keyArg, metadataType, metadata])
      (isKey : keyArg.toBytes = .ok key)
      (registered : ledger.accountOf ledger.address ≠ 0)
      (address : after.address = ledger.address) (accounts : after.accounts = ledger.accounts)
      (keys : after.keys =
        putKey (ledger.accountOf ledger.address) key .added ledger.keys)
      (balances : after.balances = ledger.balances) (price : after.price = ledger.price)
      (nextAccount : after.nextAccount = ledger.nextAccount)
      (block : after.block = ledger.block + 1) (included : receipt.block = some after.block) :
    Transacted ledger contract function args (.ok receipt) after

theorem register_inv {recovery : Arg} {outcome : Outcome}
    (called : ledger.register recovery value hash = (outcome, after)) :
    (∃ failure, outcome = .error failure ∧ after = ledger) ∨
    (outcome = .ok [ledger.registration recovery] ∧ ledger.accountOf ledger.address = 0 ∧
      ledger.price ≤ ledger.balanceOf ledger.address ∧
      after = { (ledger.setBalance ledger.address
        (ledger.balanceOf ledger.address - ledger.price)).setAccount ledger.address
          ledger.nextAccount with nextAccount := ledger.nextAccount + 1 }) := by
  unfold register at called
  simp only at called
  split at called
  · obtain ⟨rfl, rfl⟩ := Prod.mk.inj called
    exact .inl ⟨_, rfl, rfl⟩
  · next unregistered =>
    split at called
    · obtain ⟨rfl, rfl⟩ := Prod.mk.inj called
      exact .inl ⟨_, rfl, rfl⟩
    next enough =>
    split at called
    · obtain ⟨rfl, rfl⟩ := Prod.mk.inj called
      exact .inl ⟨_, rfl, rfl⟩
    · next held =>
      obtain ⟨rfl, rfl⟩ := Prod.mk.inj called
      exact .inr ⟨rfl, Decidable.not_not.mp unregistered, by omega, rfl⟩

theorem checkKey_inv {keyType key metadataType metadata : Arg} {account : Int} {bytes : Bytes}
    (checked : ledger.checkKey now keyType key metadataType metadata hash =
      .ok (account, bytes)) :
    account = ledger.accountOf ledger.address ∧ account ≠ 0 ∧ key.toBytes = .ok bytes := by
  unfold checkKey at checked
  simp only at checked
  split at checked
  · cases checked
  next registered =>
  split at checked
  · cases checked
  obtain ⟨parts, -, checked⟩ := bind_ok_inv checked
  split at checked
  · cases checked
  obtain ⟨seconds, -, checked⟩ := bind_ok_inv checked
  split at checked
  · cases checked
  obtain ⟨given, isGiven, checked⟩ := bind_ok_inv checked
  split at checked
  · cases checked
  cases checked
  exact ⟨rfl, registered, mapError_ok_inv isGiven⟩

theorem add_inv {outcome : Outcome} (called : ledger.add now args hash = (outcome, after)) :
    (∃ failure, outcome = .error failure ∧ after = ledger) ∨
    ∃ keyType keyArg metadataType metadata key events,
      args = [keyType, keyArg, metadataType, metadata] ∧ keyArg.toBytes = .ok key ∧
      ledger.accountOf ledger.address ≠ 0 ∧ outcome = .ok events ∧
      after = ledger.addKey (ledger.accountOf ledger.address) key := by
  unfold add at called
  split at called
  · next keyType keyArg metadataType metadata =>
    split at called
    · next account key checked =>
      obtain ⟨rfl, registered, isKey⟩ := checkKey_inv checked
      obtain ⟨rfl, rfl⟩ := Prod.mk.inj called
      exact .inr ⟨_, _, _, _, key, _, rfl, isKey, registered, rfl, rfl⟩
    · obtain ⟨rfl, rfl⟩ := Prod.mk.inj called
      exact .inl ⟨_, rfl, rfl⟩
  · obtain ⟨rfl, rfl⟩ := Prod.mk.inj called
    exact .inl ⟨_, rfl, rfl⟩

theorem perform_inv {outcome : Outcome}
    (called : ledger.perform now contract function args value hash = (outcome, after)) :
    (∃ failure, outcome = .error failure ∧ after = ledger) ∨
    (∃ recovery rest, contract = "IdGateway" ∧ function = "register" ∧ args = recovery :: rest ∧
      ledger.register recovery value hash = (outcome, after)) ∨
    (contract = "KeyGateway" ∧ function = "add" ∧
      ledger.add now args hash = (outcome, after)) := by
  unfold perform at called
  split at called
  · split at called
    · next recovery rest => exact .inr (.inl ⟨recovery, rest, rfl, rfl, rfl, called⟩)
    · obtain ⟨rfl, rfl⟩ := Prod.mk.inj called
      exact .inl ⟨_, rfl, rfl⟩
  · exact .inr (.inr ⟨rfl, rfl, called⟩)
  · obtain ⟨rfl, rfl⟩ := Prod.mk.inj called
    exact .inl ⟨_, rfl, rfl⟩

/-- All that a call can do. -/
theorem transact_inv {outcome : Except Failure Receipt}
    (called : ledger.transact now contract function args value = (outcome, after)) :
    Transacted ledger contract function args outcome after := by
  unfold transact at called
  simp only at called
  split at called
  · obtain ⟨rfl, rfl⟩ := Prod.mk.inj called
    exact .failed ⟨rfl, rfl, rfl, rfl, rfl, rfl, rfl⟩
  generalize performed : Ledger.perform _ _ _ _ _ _ _ = result at called
  obtain ⟨performedOutcome, performedAfter⟩ := result
  rcases perform_inv performed with
    ⟨failure, rfl, rfl⟩ | ⟨recovery, rest, rfl, rfl, rfl, registers⟩ | ⟨rfl, rfl, adds⟩
  · obtain ⟨rfl, rfl⟩ := Prod.mk.inj called
    exact .failed ⟨rfl, rfl, rfl, rfl, rfl, rfl, rfl⟩
  · rcases register_inv registers with ⟨failure, rfl, rfl⟩ | ⟨rfl, unregistered, funded, rfl⟩
    · obtain ⟨rfl, rfl⟩ := Prod.mk.inj called
      exact .failed ⟨rfl, rfl, rfl, rfl, rfl, rfl, rfl⟩
    · obtain ⟨rfl, rfl⟩ := Prod.mk.inj called
      exact .registered rfl rfl rfl unregistered rfl rfl rfl rfl funded rfl rfl rfl rfl rfl
  · rcases add_inv adds with ⟨failure, rfl, rfl⟩ |
      ⟨keyType, keyArg, metadataType, metadata, key, events, rfl, isKey, registered, rfl, rfl⟩
    · obtain ⟨rfl, rfl⟩ := Prod.mk.inj called
      exact .failed ⟨rfl, rfl, rfl, rfl, rfl, rfl, rfl⟩
    · obtain ⟨rfl, rfl⟩ := Prod.mk.inj called
      exact .keyBound rfl rfl rfl isKey registered rfl rfl rfl rfl rfl rfl rfl rfl

/-- A call leaves one record, whatever comes of it. -/
theorem records_transact (ledger : Ledger) (now : Except Fault Int) (contract function : String)
    (args : List Arg) (value : Int) :
    (ledger.transact now contract function args value).2.records =
      ledger.records ++
        [⟨contract, function, args, value, hashOf (ledger.records.length + 1)⟩] := by
  generalize called : ledger.transact now contract function args value = result
  obtain ⟨outcome, after⟩ := result
  unfold transact at called
  simp only at called
  split at called
  · obtain ⟨-, rfl⟩ := Prod.mk.inj called
    rfl
  generalize performed : Ledger.perform _ _ _ _ _ _ _ = result at called
  obtain ⟨performedOutcome, performedAfter⟩ := result
  have kept : performedAfter.records = ledger.records ++
      [⟨contract, function, args, value, hashOf (ledger.records.length + 1)⟩] := by
    rcases perform_inv performed with
      ⟨failure, -, rfl⟩ | ⟨recovery, rest, -, -, -, registers⟩ | ⟨-, -, adds⟩
    · rfl
    · rcases register_inv registers with ⟨failure, -, rfl⟩ | ⟨-, -, -, rfl⟩ <;> rfl
    · rcases add_inv adds with ⟨failure, -, rfl⟩ | ⟨_, _, _, _, _, _, -, -, -, -, rfl⟩ <;> rfl
  cases performedOutcome with
  | ok events =>
    obtain ⟨-, rfl⟩ := Prod.mk.inj called
    exact kept
  | error failure =>
    obtain ⟨-, rfl⟩ := Prod.mk.inj called
    exact kept

/-! ## Registrations -/

/-- The ledger on which an account is registered for the address, against the price. -/
def registered (ledger : Ledger) : Ledger :=
  { (ledger.setBalance ledger.address
      (ledger.balanceOf ledger.address - ledger.price)).setAccount ledger.address
        ledger.nextAccount with nextAccount := ledger.nextAccount + 1 }

/-- The ledger on which a call is recorded that registers an account for the address. -/
def registering (ledger : Ledger) (record : Transaction) : Ledger :=
  { ledger.registered with
    records := ledger.records ++ [record]
    block := ledger.block + 1 }

theorem accountOf_setAccount (ledger : Ledger) (owner : String) (account : Int) :
    (ledger.setAccount owner account).accountOf owner = account := by
  rw [accountOf, setAccount, lookup_bind]
  rfl

theorem accountOf_registering {owner : String} (record : Transaction)
    (own : Text.lower owner = Text.lower ledger.address) :
    (ledger.registering record).accountOf owner = ledger.nextAccount := by
  have accounts : (ledger.registering record).accounts =
      bind (Text.lower ledger.address) ledger.nextAccount ledger.accounts := rfl
  rw [accountOf, accounts, own, lookup_bind]
  rfl

theorem balanceOf_registering {owner : String} (record : Transaction)
    (own : Text.lower owner = Text.lower ledger.address) :
    (ledger.registering record).balanceOf owner = ledger.balanceOf owner - ledger.price := by
  have balances : (ledger.registering record).balances =
      bind (Text.lower ledger.address) (ledger.balanceOf ledger.address - ledger.price)
        ledger.balances := rfl
  rw [balanceOf, balances, own, lookup_bind, balanceOf, balanceOf, own]
  rfl

/-- An address without an account that can pay for one gets the next one. -/
theorem register_ok (recovery : Arg) (hash : String)
    (unregistered : ledger.accountOf ledger.address = 0)
    (funded : ledger.price ≤ ledger.balanceOf ledger.address) :
    ledger.register recovery ledger.price hash =
      (.ok [ledger.registration recovery], ledger.registered) := by
  have free : ¬ledger.accountOf ledger.address ≠ 0 := not_not_intro unregistered
  have enough : ¬ledger.price < ledger.price := Int.lt_irrefl _
  have held : ¬ledger.balanceOf ledger.address < ledger.price := Int.not_lt.mpr funded
  rw [register, if_neg free, if_neg enough, if_neg held]
  rfl

theorem transact_register_ok (now : Except Fault Int) (recovery : Arg)
    (unprepared : lookup ("IdGateway", "register") ledger.failures = none)
    (unregistered : ledger.accountOf ledger.address = 0)
    (funded : ledger.price ≤ ledger.balanceOf ledger.address) :
    ∃ receipt, receipt.hash = hashOf (ledger.records.length + 1) ∧
      receipt.logs =
        .events (if ledger.emitsEvents then [ledger.registration recovery] else []) ∧
      ledger.transact now "IdGateway" "register" [recovery] ledger.price =
        (.ok receipt, ledger.registering ⟨"IdGateway", "register", [recovery], ledger.price,
          hashOf (ledger.records.length + 1)⟩) := by
  have registers (record : Transaction) (hash : String) :=
    @register_ok { ledger with records := ledger.records ++ [record] } recovery hash unregistered
      funded
  rw [transact]
  simp only [unprepared, perform, registers]
  exact ⟨_, rfl, rfl, rfl⟩

/-! ## Prepared failures -/

/-- The ledger on which a call is recorded that uses up the failure prepared for it. -/
def failing (ledger : Ledger) (record : Transaction) : Ledger :=
  { ledger with
    records := ledger.records ++ [record]
    failures := unbind (record.contract, record.function) ledger.failures }

/-- A call fails for the reason that is prepared for it. -/
theorem transact_prepared (ledger : Ledger) {reason : String} (now : Except Fault Int) (args : List Arg)
    (value : Int) (prepared : lookup (contract, function) ledger.failures = some reason) :
    ledger.transact now contract function args value =
      (.error (reverted contract function reason (hashOf (ledger.records.length + 1))),
        ledger.failing ⟨contract, function, args, value,
          hashOf (ledger.records.length + 1)⟩) := by
  rw [transact]
  simp only [prepared]
  rfl

/-! ## The account of the address -/

/-- The account of the address that calls are sent from. -/
def ownAccount (ledger : Ledger) : Int := ledger.accountOf ledger.address

/-- How many accounts the address has. -/
def owned (ledger : Ledger) : Nat := if ledger.ownAccount = 0 then 0 else 1

theorem accountOf_eq_ownAccount {ledger : Ledger} {owner : String}
    (own : Text.lower owner = Text.lower ledger.address) :
    ledger.accountOf owner = ledger.ownAccount := by
  rw [ownAccount, accountOf, accountOf, own]

theorem ownAccount_congr {ledger ledger' : Ledger} (address : ledger'.address = ledger.address)
    (accounts : ledger'.accounts = ledger.accounts) : ledger'.ownAccount = ledger.ownAccount := by
  rw [ownAccount, ownAccount, accountOf, accountOf, accounts, address]

theorem owned_congr {ledger ledger' : Ledger} (account : ledger'.ownAccount = ledger.ownAccount) :
    ledger'.owned = ledger.owned := by
  rw [owned, owned, account]

theorem owned_le_one (ledger : Ledger) : ledger.owned ≤ 1 := by
  unfold owned
  split <;> omega

end Provisioning.Contract.Ledger
