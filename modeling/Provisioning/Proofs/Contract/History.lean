import Provisioning.Ethereum.Quantity
import Provisioning.Proofs.Contract.Ledger

/-!
# The history of a ledger

What is done to a ledger, one operation after the other: calls, failures that are
prepared, keys and accounts that are set by hand. Over a whole history
(`Ledger.history_accounts`) the balance of the address pays for the registrations that
succeeded, and there is at most one of them; every call leaves one record, and no two
records have the same hash; a call that fails leaves everything else alone, and one that
succeeds makes a block.

What a stretch of a history makes of a ledger is `Ledger.Grown`. It holds of one call
(`Ledger.grown_transact`) and of one operation (`Operation.grown`), stretches that follow each
other compose (`Grown.trans`), and so it holds of a history (`Ledger.grown_history`).
-/

namespace Provisioning.Contract

/-! ## Hashes of records -/

namespace Ledger

/-- How a numeral is read, digit by digit. -/
def readDigit (n? : Option Nat) (c : Char) : Option Nat :=
  match n?, Hex.value? c with
  | some n, some d => some (16 * n + d)
  | _, _ => none

theorem readDigit_some {n d : Nat} {c : Char} (isDigit : Hex.value? c = some d) :
    readDigit (some n) c = some (16 * n + d) := by
  rw [readDigit]
  simp only [isDigit]

theorem foldl_zeros (count : Nat) :
    (List.replicate count '0').foldl readDigit (some 0) = some 0 := by
  induction count with
  | zero => rfl
  | succ count ih =>
    rw [List.replicate_succ, List.foldl_cons]
    exact ih

theorem value?_digitChar {d : Nat} (small : d < 16) : Hex.value? (Nat.digitChar d) = some d := by
  have all : ∀ d ∈ List.range 16, Hex.value? (Nat.digitChar d) = some d := by decide
  exact all d (List.mem_range.mpr small)

theorem foldl_toDigits (n : Nat) : (Nat.toDigits 16 n).foldl readDigit (some 0) = some n := by
  induction n using Nat.strongRecOn with
  | ind n ih =>
    by_cases small : n < 16
    · rw [Nat.toDigits_of_lt_base small, List.foldl_cons, List.foldl_nil,
        readDigit_some (value?_digitChar small), Nat.mul_zero, Nat.zero_add]
    · have high := ih (n / 16) (by omega)
      have low := value?_digitChar (Nat.mod_lt n (by decide : 0 < 16))
      rw [Nat.toDigits_of_base_le (by decide) (by omega), List.foldl_append, high,
        List.foldl_cons, List.foldl_nil, readDigit_some low, Nat.div_add_mod]

/-- The hash of a record is read as the number of the record. -/
theorem ofText?_hashOf (number : Nat) : Quantity.ofText? (hashOf number) = some number := by
  have digits (zeros : Nat) : Quantity.ofDigits?
      (List.replicate zeros '0' ++ Nat.toDigits 16 number) = some number := by
    have nonempty : (List.replicate zeros '0' ++ Nat.toDigits 16 number).isEmpty = false := by
      simp [Nat.toDigits_ne_nil]
    rw [Quantity.ofDigits?, nonempty]
    show (List.replicate zeros '0' ++ Nat.toDigits 16 number).foldl readDigit (some 0) = _
    rw [List.foldl_append, foldl_zeros, foldl_toDigits]
  rw [Quantity.ofText?, hashOf]
  simp only [String.toList_append, String.toList_ofList]
  exact digits _

theorem hashOf_injective {number number' : Nat} (same : hashOf number = hashOf number') :
    number = number' := by
  have read := ofText?_hashOf number
  rw [same, ofText?_hashOf] at read
  exact (Option.some.inj read).symm

end Ledger

/-! ## Operations -/

/-- What is done to a ledger: a call, at a time that the clock tells, or an arrangement. -/
inductive Operation where
  | call (now : Except Fault Int) (contract function : String) (args : List Arg) (value : Int)
  | failNext (contract function reason : String)
  | addKey (account : Int) (key : Bytes)
  | setAccount (owner : String) (account : Int)

/-- A call that was made: what it found, what it ended in, and what it left. -/
structure Call where
  before : Ledger
  contract : String
  function : String
  args : List Arg
  value : Int
  outcome : Except Failure Receipt
  after : Ledger

namespace Call

/-- The record that a call has to leave. -/
def record (call : Call) : Transaction :=
  ⟨call.contract, call.function, call.args, call.value,
    Ledger.hashOf (call.before.records.length + 1)⟩

/-- Whether a call has registered an account. -/
def registers (call : Call) : Bool :=
  call.contract == "IdGateway" && call.function == "register" && call.outcome.isOk

/-- The number of the block that a call has made. -/
def block? (call : Call) : Option Int :=
  match call.outcome with
  | .ok receipt => receipt.block
  | .error _ => none

end Call

/-- Does an operation; the result is the call that it made, if it is one. -/
def Operation.perform (ledger : Ledger) : Operation → List Call × Ledger
  | .call now contract function args value =>
    let (outcome, after) := ledger.transact now contract function args value
    ([⟨ledger, contract, function, args, value, outcome, after⟩], after)
  | .failNext contract function reason => ([], ledger.failNext contract function reason)
  | .addKey account key => ([], ledger.addKey account key)
  | .setAccount owner account => ([], ledger.setAccount owner account)

/-- Does operations one after the other; the result is the calls that they made, and what is
left. -/
def Ledger.history (ledger : Ledger) : List Operation → List Call × Ledger
  | [] => ([], ledger)
  | operation :: rest =>
    let (calls, middle) := operation.perform ledger
    let (others, last) := middle.history rest
    (calls ++ others, last)

/-! ## One call -/

namespace Call

/-- What every call does, whatever comes of it: it leaves one record; if it fails it leaves
all else alone, and if it succeeds it makes the next block. -/
structure Sound (call : Call) : Prop where
  recorded : call.after.records = call.before.records ++ [call.record]
  untouched : ∀ failure, call.outcome = .error failure →
    Ledger.SameRegistries call.before call.after
  included : ∀ receipt, call.outcome = .ok receipt →
    receipt.block = some call.after.block ∧ call.after.block = call.before.block + 1

end Call

namespace Ledger

variable {ledger middle ledger' : Ledger} {calls others : List Call}

/-- What a stretch of a history makes of a ledger. -/
structure Grown (ledger ledger' : Ledger) (calls : List Call) : Prop where
  address : ledger'.address = ledger.address
  price : ledger'.price = ledger.price
  /-- Numbers of accounts do not become unfit. -/
  numbered : 1 ≤ ledger.nextAccount → 1 ≤ ledger'.nextAccount
  balance : ledger'.balanceOf ledger.address =
    ledger.balanceOf ledger.address - ledger.price * calls.countP Call.registers
  funded : 0 ≤ ledger.balanceOf ledger.address → 0 ≤ ledger'.balanceOf ledger.address
  /-- An account that is registered is the first one of the address, and stays. -/
  once : 1 ≤ ledger.nextAccount → calls.countP Call.registers + ledger.owned ≤ ledger'.owned
  records : ledger'.records = ledger.records ++ calls.map Call.record
  hashes : (calls.map Call.record).map Transaction.hash =
    (List.range' (ledger.records.length + 1) calls.length).map hashOf
  height : ledger.block ≤ ledger'.block
  above : ∀ block ∈ calls.filterMap Call.block?, ledger.block < block ∧ block ≤ ledger'.block
  rising : (calls.filterMap Call.block?).Pairwise (· < ·)
  sound : ∀ call ∈ calls, call.Sound

namespace Grown

theorem refl (ledger : Ledger) : Grown ledger ledger [] where
  address := rfl
  price := rfl
  numbered := id
  balance := by simp
  funded := id
  once _ := by simp
  records := by simp
  hashes := rfl
  height := Int.le_refl _
  above := by simp
  rising := .nil
  sound := by simp

theorem trans (first : Grown ledger middle calls) (rest : Grown middle ledger' others) :
    Grown ledger ledger' (calls ++ others) where
  address := rest.address.trans first.address
  price := rest.price.trans first.price
  numbered numbered := rest.numbered (first.numbered numbered)
  balance := by
    have late := rest.balance
    rw [first.address, first.price, first.balance] at late
    rw [late, List.countP_append, Int.natCast_add, Int.mul_add]
    omega
  funded held := by
    have late := rest.funded
    rw [first.address] at late
    exact late (first.funded held)
  once numbered := by
    have early := first.once numbered
    have late := rest.once (first.numbered numbered)
    rw [List.countP_append]
    omega
  records := by rw [rest.records, first.records, List.map_append, List.append_assoc]
  hashes := by
    have late := rest.hashes
    rw [first.records, List.length_append, List.length_map, Nat.add_right_comm] at late
    rw [List.map_append, List.map_append, first.hashes, late, ← List.map_append,
      List.range'_append_1, List.length_append]
  height := Int.le_trans first.height rest.height
  above := by
    intro block member
    rw [List.filterMap_append] at member
    have low := first.height
    have high := rest.height
    rcases List.mem_append.mp member with early | late
    · have := first.above block early
      omega
    · have := rest.above block late
      omega
  rising := by
    rw [List.filterMap_append]
    refine List.pairwise_append.mpr ⟨first.rising, rest.rising, ?_⟩
    intro block early block' late
    have below := (first.above block early).2
    have above := (rest.above block' late).1
    omega
  sound := by
    intro call member
    rcases List.mem_append.mp member with early | late
    · exact first.sound call early
    · exact rest.sound call late

/-- An arrangement that leaves money, prices, blocks and records alone, and takes no account
from the address. -/
theorem of_arrangement (address : ledger'.address = ledger.address)
    (price : ledger'.price = ledger.price) (nextAccount : ledger'.nextAccount = ledger.nextAccount)
    (balances : ledger'.balances = ledger.balances) (records : ledger'.records = ledger.records)
    (block : ledger'.block = ledger.block) (owned : ledger.owned ≤ ledger'.owned) :
    Grown ledger ledger' [] := by
  have balance : ledger'.balanceOf ledger.address = ledger.balanceOf ledger.address := by
    rw [balanceOf, balanceOf, balances]
  refine ⟨address, price, ?_, by simp [balance], ?_, ?_, by simp [records], rfl, ?_, by simp, .nil,
    by simp⟩
  · rw [nextAccount]
    exact id
  · rw [balance]
    exact id
  · intro _
    simpa using owned
  · exact Int.le_of_eq block.symm

/-- A single call, by what it does to accounts, money and blocks. -/
theorem of_call {call : Call} (count : Nat) (sound : call.Sound)
    (before : call.before = ledger) (after : call.after = ledger')
    (address : ledger'.address = ledger.address) (price : ledger'.price = ledger.price)
    (nextAccount : ledger.nextAccount ≤ ledger'.nextAccount)
    (counted : [call].countP Call.registers = count)
    (balance : ledger'.balanceOf ledger.address =
      ledger.balanceOf ledger.address - ledger.price * count)
    (funded : 0 ≤ ledger.balanceOf ledger.address → 0 ≤ ledger'.balanceOf ledger.address)
    (once : 1 ≤ ledger.nextAccount → count + ledger.owned ≤ ledger'.owned)
    (blocks : (call.block? = none ∧ ledger'.block = ledger.block) ∨
      (call.block? = some ledger'.block ∧ ledger'.block = ledger.block + 1)) :
    Grown ledger ledger' [call] where
  address := address
  price := price
  numbered numbered := Int.le_trans numbered nextAccount
  balance := by rw [counted, balance]
  funded := funded
  once := by rw [counted]; exact once
  records := by rw [← after, sound.recorded, before, List.map_singleton]
  hashes := by
    rw [List.map_singleton, List.map_singleton, Call.record, before]
    rfl
  height := by omega
  above := by
    intro block member
    rcases blocks with ⟨isNone, same⟩ | ⟨isSome, higher⟩
    · simp [isNone] at member
    · simp only [List.filterMap_cons, isSome, List.filterMap_nil, List.mem_singleton] at member
      omega
  rising := by
    rcases blocks with ⟨isNone, same⟩ | ⟨isSome, higher⟩
    · simp [isNone]
    · simp [isSome]
  sound := by simpa using sound

end Grown

/-- A call that fails has only been recorded; one that registers pays the price out of what
there is; one that binds a key leaves money and accounts alone. -/
theorem grown_transact {now : Except Fault Int} {contract function : String} {args : List Arg}
    {value : Int} {outcome : Except Failure Receipt}
    (called : ledger.transact now contract function args value = (outcome, ledger')) :
    Grown ledger ledger' [⟨ledger, contract, function, args, value, outcome, ledger'⟩] := by
  have recorded : ledger'.records = ledger.records ++
      [⟨contract, function, args, value, hashOf (ledger.records.length + 1)⟩] := by
    rw [← records_transact ledger now contract function args value, called]
  cases transact_inv called with
  | @failed failure _ same =>
    have account := ownAccount_congr same.address same.accounts
    have balance : ledger'.balanceOf ledger.address = ledger.balanceOf ledger.address := by
      rw [balanceOf, balanceOf, same.balances]
    have idle : Call.registers ⟨ledger, contract, function, args, value, .error failure, ledger'⟩ =
        false := by simp [Call.registers, Except.isOk, Except.toBool]
    refine .of_call 0 ⟨recorded, fun _ _ => same, by simp⟩ rfl rfl same.address same.price
      (Int.le_of_eq same.nextAccount.symm) ?_ ?_ ?_ ?_ (.inl ⟨rfl, same.block⟩)
    · simp [idle]
    · simp [balance]
    · rw [balance]
      exact id
    · rw [owned_congr account]
      simp
  | @registered recovery rest receipt _ isContract isFunction isArgs unregistered address keys
      accounts logs funded balances price nextAccount block included =>
    subst isContract isFunction
    have balance : ledger'.balanceOf ledger.address =
        ledger.balanceOf ledger.address - ledger.price := by
      rw [balanceOf, balances, lookup_bind]
      rfl
    have account : ledger'.ownAccount = ledger.nextAccount := by
      rw [ownAccount, accountOf, accounts, address, lookup_bind]
      rfl
    have sound : Call.Sound ⟨ledger, "IdGateway", "register", args, value, .ok receipt, ledger'⟩ :=
      ⟨recorded, by simp, fun _ isOk => by cases isOk; exact ⟨included, block⟩⟩
    refine .of_call 1 sound rfl rfl address price (by omega) ?_ ?_ ?_ ?_
      (.inr ⟨included, block⟩)
    · rfl
    · simp [balance]
    · intro _
      omega
    · intro numbered
      have none : ledger.owned = 0 := if_pos unregistered
      have one : ledger'.owned = 1 := if_neg (by omega)
      omega
  | @keyBound keyType keyArg metadataType metadata key receipt _ isContract isFunction isArgs
      isKey registered address accounts keys balances price nextAccount block included =>
    subst isContract isFunction
    have account := ownAccount_congr address accounts
    have balance : ledger'.balanceOf ledger.address = ledger.balanceOf ledger.address := by
      rw [balanceOf, balanceOf, balances]
    have sound : Call.Sound ⟨ledger, "KeyGateway", "add", args, value, .ok receipt, ledger'⟩ :=
      ⟨recorded, by simp, fun _ isOk => by cases isOk; exact ⟨included, block⟩⟩
    refine .of_call 0 sound rfl rfl address price (Int.le_of_eq nextAccount.symm) ?_ ?_
      ?_ ?_ (.inr ⟨included, block⟩)
    · rfl
    · simp [balance]
    · rw [balance]
      exact id
    · rw [owned_congr account]
      simp

/-- An account that is set by hand takes none from the address. -/
theorem grown_setAccount (ledger : Ledger) (owner : String) {account : Int} (fit : 1 ≤ account) :
    Grown ledger (ledger.setAccount owner account) [] := by
  refine .of_arrangement rfl rfl rfl rfl rfl rfl ?_
  by_cases own : Text.lower owner = Text.lower ledger.address
  · have isAccount : (ledger.setAccount owner account).ownAccount = account := by
      show (lookup (Text.lower ledger.address)
        (bind (Text.lower owner) account ledger.accounts)).getD 0 = account
      rw [own, lookup_bind]
      rfl
    have one : (ledger.setAccount owner account).owned = 1 := if_neg (by omega)
    rw [one]
    exact ledger.owned_le_one
  · have same : (ledger.setAccount owner account).ownAccount = ledger.ownAccount := by
      show (lookup (Text.lower ledger.address)
        (bind (Text.lower owner) account ledger.accounts)).getD 0 = ledger.ownAccount
      rw [lookup_bind_of_ne own]
      rfl
    exact Nat.le_of_eq (owned_congr same).symm

end Ledger

/-! ## Whole histories -/

/-- Accounts that are set by hand have numbers. -/
def Operation.Fits : Operation → Prop
  | .setAccount _ account => 1 ≤ account
  | .call .. | .failNext .. | .addKey .. => True

theorem Operation.grown {operation : Operation} {ledger ledger' : Ledger} {calls : List Call}
    (fits : operation.Fits) (performed : operation.perform ledger = (calls, ledger')) :
    Ledger.Grown ledger ledger' calls := by
  cases operation with
  | call now contract function args value =>
    obtain ⟨rfl, rfl⟩ := Prod.mk.inj performed
    exact Ledger.grown_transact rfl
  | failNext contract function reason =>
    obtain ⟨rfl, rfl⟩ := Prod.mk.inj performed
    exact .of_arrangement rfl rfl rfl rfl rfl rfl (Nat.le_refl _)
  | addKey account key =>
    obtain ⟨rfl, rfl⟩ := Prod.mk.inj performed
    exact .of_arrangement rfl rfl rfl rfl rfl rfl (Nat.le_refl _)
  | setAccount owner account =>
    obtain ⟨rfl, rfl⟩ := Prod.mk.inj performed
    exact Ledger.grown_setAccount ledger owner fits

namespace Ledger

theorem grown_history {operations : List Operation} {ledger last : Ledger} {calls : List Call}
    (fits : ∀ operation ∈ operations, operation.Fits)
    (done : ledger.history operations = (calls, last)) : Grown ledger last calls := by
  induction operations generalizing ledger calls with
  | nil =>
    obtain ⟨rfl, rfl⟩ := Prod.mk.inj done
    exact .refl ledger
  | cons operation rest ih =>
    obtain ⟨here, others⟩ := List.forall_mem_cons.mp fits
    obtain ⟨rfl, rfl⟩ := Prod.mk.inj done
    exact (operation.grown here rfl).trans (ih others rfl)

/-- Whatever is done to a fresh ledger, its balance pays for the registrations that
succeeded, is never overdrawn, and there is at most one of them. Every call leaves one
record, and no two records have the same hash. A call that fails leaves balances, accounts,
keys, the number of the next account and the block as they were; one that succeeds is in the
block that it makes, and later ones are in higher blocks. -/
theorem history_accounts {address : String} {balance price next : Int}
    {operations : List Operation} {calls : List Call} {last : Ledger}
    (held : 0 ≤ balance) (numbered : 1 ≤ next) (fits : ∀ operation ∈ operations, operation.Fits)
    (done : (create address balance price next).history operations = (calls, last)) :
    last.balanceOf address = balance - price * calls.countP Call.registers ∧
    0 ≤ last.balanceOf address ∧
    calls.countP Call.registers ≤ 1 ∧
    last.records = calls.map Call.record ∧
    (last.records.map Transaction.hash).Nodup ∧
    (∀ call ∈ calls, call.Sound) ∧
    (calls.filterMap Call.block?).Pairwise (· < ·) := by
  have grown := grown_history fits done
  have start : (create address balance price next).balanceOf address = balance := by
    show (lookup (Text.lower address) [(Text.lower address, balance)]).getD 0 = balance
    simp [lookup]
  have paid : last.balanceOf address = balance - price * calls.countP Call.registers := by
    have left := grown.balance
    rw [show (create address balance price next).address = address from rfl, start] at left
    exact left
  have funded : 0 ≤ last.balanceOf address := by
    have left := grown.funded
    rw [show (create address balance price next).address = address from rfl, start] at left
    exact left held
  have once : calls.countP Call.registers ≤ 1 := by
    have bound := grown.once numbered
    have most := last.owned_le_one
    omega
  have records : last.records = calls.map Call.record := grown.records
  have hashes : (last.records.map Transaction.hash).Nodup := by
    rw [records, grown.hashes]
    refine List.Pairwise.map hashOf ?_ List.nodup_range'
    intro number number' differ same
    exact differ (hashOf_injective same)
  exact ⟨paid, funded, once, records, hashes, grown.sound, grown.rising⟩

/-! ### A history with one registration -/

/-- A registration that is made to fail, one that succeeds, one too many, and a key without
metadata. -/
def sampleOperations : List Operation :=
  [.failNext "IdGateway" "register" "out of gas",
    .call (.ok 5) "IdGateway" "register" [.str "0xB"] 4,
    .call (.ok 5) "IdGateway" "register" [.str "0xB"] 4,
    .setAccount "0xA" 9,
    .call (.ok 6) "IdGateway" "register" [.str "0xB"] 4,
    .addKey 9 [1],
    .call (.ok 7) "KeyGateway" "add" [.int 1, .bytes [2], .int 1, .bytes []] 0]

def sampleHistory : List Call × Ledger :=
  (create "0xA" 10 3 7).history sampleOperations

theorem sampleHistory_registers :
    sampleHistory.1.map (fun call => (call.outcome.isOk, call.registers)) =
      [(false, false), (true, true), (false, false), (false, false)] := by
  decide +kernel

theorem sampleHistory_accounts :
    (0 : Int) ≤ 10 ∧ (1 : Int) ≤ 7 ∧ (∀ operation ∈ sampleOperations, operation.Fits) ∧
    sampleHistory.2.balanceOf "0xA" = 7 ∧ sampleHistory.1.countP Call.registers = 1 ∧
    (sampleHistory.2.records.map Transaction.hash).Nodup ∧
    (sampleHistory.1.filterMap Call.block?).Pairwise (· < ·) := by
  have fits : ∀ operation ∈ sampleOperations, operation.Fits := by
    simp [sampleOperations, Operation.Fits]
  have done : (create "0xA" 10 3 7).history sampleOperations =
      (sampleHistory.1, sampleHistory.2) := rfl
  obtain ⟨paid, -, -, -, hashes, -, rising⟩ :=
    history_accounts (by decide) (by decide) fits done
  have counted : sampleHistory.1.countP Call.registers = 1 := by
    have registered := congrArg (List.countP Prod.snd) sampleHistory_registers
    rw [List.countP_map] at registered
    exact registered
  rw [counted] at paid
  exact ⟨by decide, by decide, fits, paid, counted, hashes, rising⟩

end Ledger

end Provisioning.Contract
