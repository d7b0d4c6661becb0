import Provisioning.Proofs.Contract.Ledger

/-!
# Which keys a ledger binds

A ledger binds a key to the account of its address if the metadata ask for that account
under a signature, in time, and the key is not bound yet
(`Ledger.transact_add_bound`); a request for any other account is reverted
(`Ledger.transact_add_foreign`). Either way a call is recorded, and only a key that is
bound changes the registries: no other key has another state then
(`Ledger.keyState_addKey`).
-/

namespace Provisioning.Contract.Ledger

variable {ledger : Ledger} {now : Except Fault Int} {hash : String}
variable {key metadata signature : Bytes} {signer : Arg} {requested deadline seconds : Int}

/-! ## States of keys -/

theorem findKey_putKey_of_ne {account account' : Int} {key' : Bytes}
    (other : ¬(account = account' ∧ key = key')) (state : KeyState) (entries : List KeyEntry) :
    findKey account' key' (putKey account key state entries) = findKey account' key' entries := by
  induction entries with
  | nil => rw [putKey, findKey, findKey, if_neg other, findKey]
  | cons entry rest ih =>
    by_cases same : entry.account = account ∧ entry.key = key
    · have differs : ¬(entry.account = account' ∧ entry.key = key') := by
        rw [same.1, same.2]
        exact other
      rw [putKey, if_pos same, findKey, if_neg other, findKey, if_neg differs]
    · rw [putKey, if_neg same, findKey, findKey, ih]

/-- A key that is added changes the state of no other. -/
theorem keyState_addKey (ledger : Ledger) (account account' : Int) (key key' : Bytes) :
    (ledger.addKey account key).keyState account' key' =
      if account = account' ∧ key = key' then .added else ledger.keyState account' key' := by
  split
  · next same =>
    obtain ⟨rfl, rfl⟩ := same
    rw [keyState, addKey, setKey, findKey_putKey]
    rfl
  · next other => rw [keyState, addKey, setKey, findKey_putKey_of_ne other, keyState]

/-! ## The checks of a key -/

theorem metadataParts_of_decode
    (decoded : Abi.decode KeyRequest.metadataKinds metadata =
      .ok [.list [.int requested, signer, .bytes signature, .int deadline]]) :
    metadataParts (.bytes metadata) = .ok (requested, signature, deadline) := by
  rw [metadataParts, decoded]

/-- A request that is signed, in time, and for the account of the address passes every check
of a key that is not bound. -/
theorem checkKey_ok
    (decoded : Abi.decode KeyRequest.metadataKinds metadata =
      .ok [.list [.int requested, signer, .bytes signature, .int deadline]])
    (own : ledger.accountOf ledger.address = requested) (registered : requested ≠ 0)
    (signed : signature ≠ []) (early : seconds ≤ deadline)
    (unbound : ledger.keyState requested key ≠ .added) :
    ledger.checkKey (.ok seconds) (.int 1) (.bytes key) (.int 1) (.bytes metadata) hash =
      .ok (requested, key) := by
  have kinds : ¬((Arg.int 1).integer? ≠ some 1 ∨ (Arg.int 1).integer? ≠ some 1) := by
    simp [Arg.integer?]
  have foreign : ¬(requested ≠ requested ∨ signature = []) := by simp [signed]
  have expired : ¬deadline < seconds := by omega
  have isKey : (Arg.bytes key).toBytes = .ok key := rfl
  rw [checkKey, metadataParts_of_decode decoded, own]
  simp only [if_neg registered, if_neg kinds, if_neg foreign, if_neg expired, if_neg unbound,
    isKey, mapError_ok, Bind.bind, Except.bind, pure, Except.pure]

/-- A request for an account that is not the one of the address is refused. -/
theorem checkKey_foreign
    (decoded : Abi.decode KeyRequest.metadataKinds metadata =
      .ok [.list [.int requested, signer, .bytes signature, .int deadline]])
    (foreign : ledger.accountOf ledger.address ≠ requested) :
    ∃ reason, ledger.checkKey now (.int 1) (.bytes key) (.int 1) (.bytes metadata) hash =
      .error (reverted "KeyGateway" "add" reason hash) := by
  rw [checkKey]
  dsimp only
  split
  · exact ⟨"HasNoId", rfl⟩
  · have kinds : ¬((Arg.int 1).integer? ≠ some 1 ∨ (Arg.int 1).integer? ≠ some 1) := by
      simp [Arg.integer?]
    have differs : requested ≠ ledger.accountOf ledger.address ∨ signature = [] :=
      .inl (Ne.symm foreign)
    refine ⟨"InvalidMetadata", ?_⟩
    rw [if_neg kinds, metadataParts_of_decode decoded]
    simp only [mapError_ok, Bind.bind, Except.bind, if_pos differs]

/-! ## Calls -/

/-- The ledger on which a call is recorded that binds a key. -/
def binding (ledger : Ledger) (account : Int) (key : Bytes) (record : Transaction) : Ledger :=
  { ledger.addKey account key with
    records := ledger.records ++ [record]
    block := ledger.block + 1 }

/-- The record of a call that asks for a key. -/
def addition (ledger : Ledger) (key metadata : Bytes) : Transaction :=
  ⟨"KeyGateway", "add", [.int 1, .bytes key, .int 1, .bytes metadata], 0,
    hashOf (ledger.records.length + 1)⟩

/-- The checks of a key do not look at the record of the call. -/
theorem checkKey_recorded (record : Transaction) (keyType keyArg metadataType parts : Arg) :
    checkKey { ledger with records := ledger.records ++ [record] } now keyType keyArg metadataType
      parts hash = ledger.checkKey now keyType keyArg metadataType parts hash := rfl

theorem transact_add_ok (unprepared : lookup ("KeyGateway", "add") ledger.failures = none)
    {account : Int} {bytes : Bytes}
    (checked : ledger.checkKey now (.int 1) (.bytes key) (.int 1) (.bytes metadata)
      (hashOf (ledger.records.length + 1)) = .ok (account, bytes)) :
    ∃ receipt,
      ledger.transact now "KeyGateway" "add" [.int 1, .bytes key, .int 1, .bytes metadata] 0 =
        (.ok receipt, ledger.binding account bytes (ledger.addition key metadata)) := by
  rw [transact]
  simp only [unprepared, perform, add, checkKey_recorded, checked]
  exact ⟨_, rfl⟩

theorem transact_add_error (unprepared : lookup ("KeyGateway", "add") ledger.failures = none)
    {failure : Failure}
    (checked : ledger.checkKey now (.int 1) (.bytes key) (.int 1) (.bytes metadata)
      (hashOf (ledger.records.length + 1)) = .error failure) :
    ledger.transact now "KeyGateway" "add" [.int 1, .bytes key, .int 1, .bytes metadata] 0 =
      (.error failure,
        { ledger with records := ledger.records ++ [ledger.addition key metadata] }) := by
  rw [transact]
  simp only [unprepared, perform, add, checkKey_recorded, checked]
  rfl

/-- A key that passes the checks is bound, and nothing else changes. -/
theorem transact_add_bound (unprepared : lookup ("KeyGateway", "add") ledger.failures = none)
    (decoded : Abi.decode KeyRequest.metadataKinds metadata =
      .ok [.list [.int requested, signer, .bytes signature, .int deadline]])
    (own : ledger.accountOf ledger.address = requested) (registered : requested ≠ 0)
    (signed : signature ≠ []) (early : seconds ≤ deadline)
    (unbound : ledger.keyState requested key ≠ .added) :
    ∃ receipt,
      ledger.transact (.ok seconds) "KeyGateway" "add"
          [.int 1, .bytes key, .int 1, .bytes metadata] 0 =
        (.ok receipt, ledger.binding requested key (ledger.addition key metadata)) :=
  transact_add_ok unprepared (checkKey_ok decoded own registered signed early unbound)

/-- A request for another account is reverted, and only its record stays. -/
theorem transact_add_foreign (unprepared : lookup ("KeyGateway", "add") ledger.failures = none)
    (decoded : Abi.decode KeyRequest.metadataKinds metadata =
      .ok [.list [.int requested, signer, .bytes signature, .int deadline]])
    (foreign : ledger.accountOf ledger.address ≠ requested) :
    ∃ reason,
      ledger.transact now "KeyGateway" "add" [.int 1, .bytes key, .int 1, .bytes metadata] 0 =
        (.error (reverted "KeyGateway" "add" reason (hashOf (ledger.records.length + 1))),
          { ledger with records := ledger.records ++ [ledger.addition key metadata] }) := by
  obtain ⟨reason, refused⟩ := checkKey_foreign decoded foreign
  exact ⟨reason, transact_add_error unprepared refused⟩

end Provisioning.Contract.Ledger
