import Provisioning.Proofs.Except
import Provisioning.Settings.Reader

/-!
# Settings that are accepted

Settings are accepted exactly if every field is: one that is given can be read as the value it
has (`Settings.Given`), and one that is not given may be left out and has the value that holds
then (`Settings.GivenOr`). No field is accepted for another's sake, and nothing that is accepted
is lost (`Settings.Reads`). A field is given by a keyword, or else by a variable that is not
empty (`Settings.Sources.Supplies`). Main statement: `Settings.ofSources_ok_iff`.
-/

namespace Provisioning

/-! ## Variables -/

namespace Environment

/-- No variable that counts is empty. -/
def Counts (known : List (String × Option String)) : Prop :=
  ∀ entry ∈ known, entry.2 ≠ some ""

variable {name : String} {value : Option String} {known : List (String × Option String)}

theorem Counts.bind (counts : Counts known) (filled : value ≠ some "") :
    Counts (bind name value known) := by
  induction known with
  | nil => simpa [Environment.bind, Counts] using filled
  | cons entry rest ih =>
    obtain ⟨first, others⟩ := List.forall_mem_cons.mp counts
    unfold Environment.bind
    split
    · exact List.forall_mem_cons.mpr ⟨filled, others⟩
    · exact List.forall_mem_cons.mpr ⟨first, ih others⟩

theorem Counts.foldl {given : List (String × Option String)} (counts : Counts known)
    (filled : Counts given) :
    Counts (given.foldl (fun known (name, value) => Environment.bind (Text.lower name) value known)
      known) := by
  induction given generalizing known with
  | nil => exact counts
  | cons entry rest ih =>
    obtain ⟨first, others⟩ := List.forall_mem_cons.mp filled
    exact ih (counts.bind first) others

theorem counts_named (given : List (String × Option String)) : Counts (named given) := by
  refine Counts.foldl nofun fun entry member => ?_
  simpa using (List.mem_filter.mp member).2

theorem Counts.find {text : String} (counts : Counts known) (found : find name known = some text) :
    text ≠ "" := by
  induction known with
  | nil => cases found
  | cons entry rest ih =>
    obtain ⟨first, others⟩ := List.forall_mem_cons.mp counts
    unfold Environment.find at found
    split at found
    · rintro rfl
      exact first found
    · exact ih others found

/-- A variable holds nothing rather than an empty text. -/
theorem content?_ne_empty {environment : List (String × String)} {file : Option String}
    {text : String} (held : content? environment file name = some text) : text ≠ "" := by
  rcases Option.or_eq_some_iff.mp held with here | ⟨-, there⟩
  · exact (counts_named _).find here
  · exact (counts_named _).find there

end Environment

namespace Settings

variable {α β : Type}

/-! ## Where fields come from -/

/-- The sources supply a value for a field: under a keyword, or in a variable that is not empty
if there is none. -/
inductive Sources.Supplies (sources : Sources) (name : String) : Json → Prop where
  | keyword {value : Json} (bound : Json.find? name sources.given = some value) :
      Supplies sources name value
  | environment {text : String} (unbound : Json.find? name sources.given = none)
      (held : Environment.content? sources.environment sources.file (sources.marker ++ name) =
        some text) (filled : text ≠ "") : Supplies sources name (.str text)

theorem Sources.find_eq_some_iff {sources : Sources} {name : String} {value : Json} :
    sources.find name = some value ↔ sources.Supplies name value := by
  unfold find
  cases bound : Json.find? name sources.given with
  | some found =>
    constructor
    · rintro ⟨⟩
      exact .keyword bound
    · intro supplies
      cases supplies with
      | keyword bound' => exact bound.symm.trans bound'
      | environment unbound => cases bound.symm.trans unbound
  | none =>
    constructor
    · intro found
      obtain ⟨text, held, rfl⟩ := Option.map_eq_some_iff.mp found
      exact .environment bound held (Environment.content?_ne_empty held)
    · intro supplies
      cases supplies with
      | keyword bound' => cases bound.symm.trans bound'
      | environment unbound held => exact congrArg (Option.map Json.str) held

theorem Sources.find_eq_none_iff {sources : Sources} {name : String} :
    sources.find name = none ↔ ∀ value, ¬sources.Supplies name value := by
  simp only [Option.eq_none_iff_forall_ne_some, Ne, find_eq_some_iff]

/-! ## Checks of many fields -/

/-- A value with nothing wrong about it. -/
def Checked.Holds (checked : Checked α) (value : α) : Prop :=
  checked = ⟨some value, []⟩

namespace Checked

theorem holds_ofRead {field : String} {read : Read α} {value : α} :
    (ofRead field read).Holds value ↔ read = .ok value := by
  cases read with
  | ok found => simp [ofRead, Holds]
  | error fault => simp [ofRead, Holds]

/-- A function and its argument are checked apart. -/
theorem Holds.seq {f : Checked (α → β)} {argument : Checked α} {g : α → β} {value : α}
    (function : f.Holds g) (holds : argument.Holds value) : (f <*> argument).Holds (g value) := by
  subst function holds
  rfl

/-- Nothing is wrong about either if nothing is about both. -/
theorem Holds.seq_inv {f : Checked (α → β)} {argument : Checked α} {result : β}
    (holds : (f <*> argument).Holds result) :
    ∃ g value, f.Holds g ∧ argument.Holds value ∧ result = g value := by
  obtain ⟨function?, faults⟩ := f
  obtain ⟨value?, others⟩ := argument
  have both : (⟨function?.bind fun g => value?.map g, faults ++ others⟩ : Checked β) =
      ⟨some result, []⟩ := holds
  obtain ⟨isResult, fine⟩ := Checked.mk.inj both
  obtain ⟨rfl, rfl⟩ := List.append_eq_nil_iff.mp fine
  obtain ⟨g, rfl, isResult⟩ := Option.bind_eq_some_iff.mp isResult
  obtain ⟨value, rfl, rfl⟩ := Option.map_eq_some_iff.mp isResult
  exact ⟨g, value, rfl, rfl, rfl⟩

theorem Holds.map {argument : Checked α} {value : α} (g : α → β) (holds : argument.Holds value) :
    (g <$> argument).Holds (g value) := by
  subst holds
  rfl

theorem Holds.map_inv {g : α → β} {argument : Checked α} {result : β}
    (holds : (g <$> argument).Holds result) :
    ∃ value, argument.Holds value ∧ result = g value := by
  have applied : ((pure g : Checked (α → β)) <*> argument).Holds result := holds
  obtain ⟨f, value, same, isValue, rfl⟩ := applied.seq_inv
  cases same
  exact ⟨value, isValue, rfl⟩

end Checked

/-! ## Single fields -/

/-- The field is given, and read as the value. -/
def Given (find : String → Option Json) (name : String) (read : Json → Read α) (value : α) :
    Prop :=
  ∃ document, find name = some document ∧ read document = .ok value

/-- The field is read as the value, or left out and has the value then. -/
def GivenOr (find : String → Option Json) (name : String) (read : Json → Read α)
    (default value : α) : Prop :=
  Given find name read value ∨ (find name = none ∧ value = default)

variable {find : String → Option Json} {name : String} {read : Json → Read α}
variable {default value : α}

theorem holds_required : (required find name read).Holds value ↔ Given find name read value := by
  unfold required Given
  cases found : find name with
  | none => simp [Checked.Holds]
  | some document => simp [Checked.holds_ofRead]

theorem holds_optional :
    (optional find name read default).Holds value ↔ GivenOr find name read default value := by
  unfold optional GivenOr Given
  cases found : find name with
  | none => simp [Checked.Holds, eq_comm]
  | some document => simp [Checked.holds_ofRead]

/-- What is true of every value that is read, and of the one that holds else, is true. -/
theorem GivenOr.of_read {fits : α → Prop} (given : GivenOr find name read default value)
    (reads : ∀ document value, read document = .ok value → fits value) (held : fits default) :
    fits value := by
  rcases given with ⟨document, -, isRead⟩ | ⟨-, rfl⟩
  · exact reads document value isRead
  · exact held

/-! ## All fields -/

/-- The settings are what a look-up of given values says: each field as it is read, or as it is
if it may be left out. -/
structure Reads (find : String → Option Json) (settings : Settings) : Prop where
  nodeUrl : Given find "rpc_url" readNonempty settings.nodeUrl
  custodyKey : Given find "custody_private_key" readText settings.custodyKey
  hubUrl : Given find "hub_url" readNonemptyBase settings.hubUrl
  hubCredentials : GivenOr find "hub_rpc_auth" readOptional none settings.hubCredentials
  recoveryAddress : GivenOr find "recovery_address" readOptional none settings.recoveryAddress
  network : GivenOr find "network" readNetwork .mainnet settings.network
  chainId : GivenOr find "chain_id" readPositiveInteger 10 settings.chainId
  nameUrl : GivenOr find "fname_url" readBase "https://fnames.farcaster.xyz" settings.nameUrl
  accountGateway : GivenOr find "id_gateway_address" readText
    (ofEndpoints "" "" "").accountGateway settings.accountGateway
  accountRegistry : GivenOr find "id_registry_address" readText
    (ofEndpoints "" "" "").accountRegistry settings.accountRegistry
  keyGateway : GivenOr find "key_gateway_address" readText
    (ofEndpoints "" "" "").keyGateway settings.keyGateway
  keyRegistry : GivenOr find "key_registry_address" readText
    (ofEndpoints "" "" "").keyRegistry settings.keyRegistry
  settleSeconds : GivenOr find "signer_settle_seconds" readDuration (Binary64.ofInt 30)
    settings.settleSeconds
  pollsVisibility : GivenOr find "poll_signer_visibility" readBool false settings.pollsVisibility
  visibilityTimeout : GivenOr find "signer_visibility_timeout" readDuration (Binary64.ofInt 60)
    settings.visibilityTimeout
  pollInterval : GivenOr find "signer_poll_interval" readPositive (Binary64.ofInt 2)
    settings.pollInterval
  verifiesSuppliedKey : GivenOr find "verify_supplied_signer" readBool false
    settings.verifiesSuppliedKey
  httpTimeout : GivenOr find "http_timeout" readPositive (Binary64.ofInt 30) settings.httpTimeout
  transactionTimeout : GivenOr find "tx_timeout" readPositive (Binary64.ofInt 120)
    settings.transactionTimeout

/-- Nothing is wrong about any field exactly if the settings are what is read. -/
theorem holds_checked_iff {settings : Settings} :
    (checked find).Holds settings ↔ Reads find settings := by
  constructor
  · intro holds
    -- The fields come off from the last one to the first.
    obtain ⟨_, _, first18, transactionTimeout, rfl⟩ := holds.seq_inv
    obtain ⟨_, _, first17, httpTimeout, rfl⟩ := first18.seq_inv
    obtain ⟨_, _, first16, verifiesSuppliedKey, rfl⟩ := first17.seq_inv
    obtain ⟨_, _, first15, pollInterval, rfl⟩ := first16.seq_inv
    obtain ⟨_, _, first14, visibilityTimeout, rfl⟩ := first15.seq_inv
    obtain ⟨_, _, first13, pollsVisibility, rfl⟩ := first14.seq_inv
    obtain ⟨_, _, first12, settleSeconds, rfl⟩ := first13.seq_inv
    obtain ⟨_, _, first11, keyRegistry, rfl⟩ := first12.seq_inv
    obtain ⟨_, _, first10, keyGateway, rfl⟩ := first11.seq_inv
    obtain ⟨_, _, first9, accountRegistry, rfl⟩ := first10.seq_inv
    obtain ⟨_, _, first8, accountGateway, rfl⟩ := first9.seq_inv
    obtain ⟨_, _, first7, nameUrl, rfl⟩ := first8.seq_inv
    obtain ⟨_, _, first6, chainId, rfl⟩ := first7.seq_inv
    obtain ⟨_, _, first5, network, rfl⟩ := first6.seq_inv
    obtain ⟨_, _, first4, recoveryAddress, rfl⟩ := first5.seq_inv
    obtain ⟨_, _, first3, hubCredentials, rfl⟩ := first4.seq_inv
    obtain ⟨_, _, first2, hubUrl, rfl⟩ := first3.seq_inv
    obtain ⟨_, _, first1, custodyKey, rfl⟩ := first2.seq_inv
    obtain ⟨_, nodeUrl, rfl⟩ := first1.map_inv
    simp only [holds_required] at nodeUrl custodyKey hubUrl
    simp only [holds_optional] at *
    constructor <;> assumption
  · intro reads
    have first3 := (((holds_required.mpr reads.nodeUrl).map Settings.mk).seq
      (holds_required.mpr reads.custodyKey)).seq (holds_required.mpr reads.hubUrl)
    have first8 := ((((first3.seq (holds_optional.mpr reads.hubCredentials)).seq
      (holds_optional.mpr reads.recoveryAddress)).seq (holds_optional.mpr reads.network)).seq
      (holds_optional.mpr reads.chainId)).seq (holds_optional.mpr reads.nameUrl)
    have first12 := (((first8.seq (holds_optional.mpr reads.accountGateway)).seq
      (holds_optional.mpr reads.accountRegistry)).seq (holds_optional.mpr reads.keyGateway)).seq
      (holds_optional.mpr reads.keyRegistry)
    have first16 := (((first12.seq (holds_optional.mpr reads.settleSeconds)).seq
      (holds_optional.mpr reads.pollsVisibility)).seq
        (holds_optional.mpr reads.visibilityTimeout)).seq (holds_optional.mpr reads.pollInterval)
    exact ((first16.seq (holds_optional.mpr reads.verifiesSuppliedKey)).seq
      (holds_optional.mpr reads.httpTimeout)).seq (holds_optional.mpr reads.transactionTimeout)

theorem ofSources_ok_iff {sources : Sources} {settings : Settings} :
    ofSources sources = .ok settings ↔ Reads sources.find settings := by
  rw [← holds_checked_iff, ofSources, Checked.Holds]
  generalize checked sources.find = result
  obtain ⟨value?, faults⟩ := result
  cases value? <;> cases faults <;> simp

end Settings

end Provisioning
