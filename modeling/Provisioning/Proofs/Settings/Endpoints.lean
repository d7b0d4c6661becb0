import Mathlib.Data.List.DropRight
import Provisioning.Naming
import Provisioning.Hub
import Provisioning.Proofs.Settings.Accepted
import Provisioning.Settings.Display

/-!
# Locations in accepted settings

Paths are appended to the locations of the hub and of the naming authority, so slashes at their
end are dropped (`Http.Location.Strips`). What is accepted has such locations, is not empty
where the node is, and can be handed in again field by field (`Settings.Sound`). For the
location of the hub it is the text that was given which must not be empty, and not what is left
of it: a text of slashes alone is accepted, leaves nothing, and cannot be handed in again. Main
statement: `Settings.accepted_endpoints`.
-/

namespace Provisioning

/-! ## Slashes at the end -/

namespace Http.Location

/-- The base is the location without the slashes at its end: only slashes are missing, and all
that stood there. -/
structure Strips (url base : String) : Prop where
  slashes : ∃ count, url.toList = base.toList ++ List.replicate count '/'
  bare : base.toList.getLast? ≠ some '/'

variable {url : String}

theorem toList_base (url : String) : (base url).toList = url.toList.rdropWhile (· == '/') := by
  rw [base, String.toList_ofList]
  rfl

/-- No slash is dropped where none stands at the end. -/
theorem rdropWhile_of_bare {text : List Char} (bare : text.getLast? ≠ some '/') :
    text.rdropWhile (· == '/') = text := by
  rw [List.rdropWhile_eq_self_iff]
  intro nonempty isSlash
  rw [List.getLast?_eq_some_getLast nonempty] at bare
  exact bare (congrArg some (by simpa using isSlash))

theorem strips_base (url : String) : Strips url (base url) := by
  constructor
  · have all : ∀ c ∈ url.toList.rtakeWhile (· == '/'), c = '/' := fun c member => by
      simpa using List.mem_rtakeWhile_imp member
    refine ⟨(url.toList.rtakeWhile (· == '/')).length, ?_⟩
    rw [toList_base, ← List.eq_replicate_of_mem all, List.rdropWhile_append_rtakeWhile]
  · rw [toList_base]
    intro isLast
    obtain ⟨rest, isRest⟩ := List.getLast?_eq_some_iff.mp isLast
    have nonempty : url.toList.rdropWhile (· == '/') ≠ [] := by simp [isRest]
    have bare := List.rdropWhile_last_not _ _ nonempty
    simp [isRest] at bare

theorem base_of_bare (bare : url.toList.getLast? ≠ some '/') : base url = url := by
  rw [← String.toList_inj, toList_base, rdropWhile_of_bare bare]

/-- Nothing is left exactly of slashes. -/
theorem base_eq_empty_iff : base url = "" ↔ ∀ c ∈ url.toList, c = '/' := by
  rw [← String.toList_inj, toList_base, String.toList_empty, List.rdropWhile_eq_nil_iff]
  simp

end Http.Location

namespace Settings

variable {document : Json}

/-! ## What is read of a field -/

theorem readText_inv {text : String} (read : readText document = .ok text) :
    document = .str text := by
  cases document with
  | str found =>
    cases read
    rfl
  | null | bool | int | float | arr | obj => cases read

theorem readNonempty_inv {text : String} (read : readNonempty document = .ok text) :
    document = .str text ∧ text ≠ "" := by
  obtain ⟨found, isText, rest⟩ := bind_ok_inv read
  split at rest
  · cases rest
  · next given =>
    cases rest
    exact ⟨readText_inv isText, given⟩

theorem readBase_inv {location : String} (read : readBase document = .ok location) :
    ∃ text, document = .str text ∧ location = Http.Location.base text := by
  cases isText : readText document with
  | error fault => simp [readBase, isText, Except.map] at read
  | ok text =>
    rw [readBase, isText] at read
    cases read
    exact ⟨text, readText_inv isText, rfl⟩

theorem readNonemptyBase_inv {location : String} (read : readNonemptyBase document = .ok location) :
    ∃ text, document = .str text ∧ text ≠ "" ∧ location = Http.Location.base text := by
  cases isText : readNonempty document with
  | error fault => simp [readNonemptyBase, isText, Except.map] at read
  | ok text =>
    rw [readNonemptyBase, isText] at read
    cases read
    obtain ⟨isDocument, given⟩ := readNonempty_inv isText
    exact ⟨text, isDocument, given, rfl⟩

theorem readPositiveInteger_inv {n : Int} (read : readPositiveInteger document = .ok n) :
    0 < n := by
  obtain ⟨found, -, rest⟩ := bind_ok_inv read
  split at rest
  · next positive =>
    cases rest
    exact positive
  · cases rest

theorem readDuration_inv {x : Binary64} (read : readDuration document = .ok x) :
    Binary64.zero.le x = true := by
  obtain ⟨found, -, rest⟩ := bind_ok_inv read
  split at rest
  · next fits =>
    cases rest
    exact fits
  · cases rest

theorem readPositive_inv {x : Binary64} (read : readPositive document = .ok x) :
    Binary64.zero.lt x = true := by
  obtain ⟨found, -, rest⟩ := bind_ok_inv read
  split at rest
  · next positive =>
    cases rest
    exact positive
  · cases rest

theorem networkOfCode_inv {code? : Option Int} {network : Network}
    (read : networkOfCode code? = .ok network) :
    Network.ofCode? network.code = some network := by
  unfold networkOfCode at read
  split at read
  · next known =>
    cases read
    obtain ⟨code, -, known⟩ := Option.bind_eq_some_iff.mp known
    unfold Network.ofCode? at known
    split at known <;> cases known <;> rfl
  · cases read

/-- A network that is read has a code by which it is known. -/
theorem readNetwork_inv {network : Network} (read : readNetwork document = .ok network) :
    Network.ofCode? network.code = some network := by
  unfold readNetwork at read
  split at read
  · next text =>
    simp only at read
    split at read
    · split at read
      · exact networkOfCode_inv read
      · cases read
    · split at read
      · next named =>
        cases read
        unfold Network.ofName? at named
        split at named <;> cases named <;> rfl
      · cases read
  · exact networkOfCode_inv read

/-! ## Settings handed in again -/

/-- What every field of accepted settings keeps to. -/
structure Sound (settings : Settings) : Prop where
  node : settings.nodeUrl ≠ ""
  hub : settings.hubUrl.toList.getLast? ≠ some '/'
  name : settings.nameUrl.toList.getLast? ≠ some '/'
  network : Network.ofCode? settings.network.code = some settings.network
  chain : 0 < settings.chainId
  settles : Binary64.zero.le settings.settleSeconds = true
  waits : Binary64.zero.le settings.visibilityTimeout = true
  polls : Binary64.zero.lt settings.pollInterval = true
  asks : Binary64.zero.lt settings.httpTimeout = true
  confirms : Binary64.zero.lt settings.transactionTimeout = true

variable {settings : Settings} {find : String → Option Json}

/-- What is read keeps to it, and so does every value that holds else. -/
theorem Reads.sound (reads : Reads find settings) : Sound settings where
  node := by
    obtain ⟨document, -, read⟩ := reads.nodeUrl
    exact (readNonempty_inv read).2
  hub := by
    obtain ⟨document, -, read⟩ := reads.hubUrl
    obtain ⟨text, -, -, isBase⟩ := readNonemptyBase_inv read
    rw [isBase]
    exact (Http.Location.strips_base text).bare
  name := by
    have bare (document : Json) (location : String) (read : readBase document = .ok location) :
        location.toList.getLast? ≠ some '/' := by
      obtain ⟨text, -, isBase⟩ := readBase_inv read
      rw [isBase]
      exact (Http.Location.strips_base text).bare
    exact reads.nameUrl.of_read bare (by decide)
  network := reads.network.of_read (fun _ _ => readNetwork_inv) rfl
  chain := reads.chainId.of_read (fun _ _ => readPositiveInteger_inv) (by decide)
  settles := reads.settleSeconds.of_read (fun _ _ => readDuration_inv) (by decide)
  waits := reads.visibilityTimeout.of_read (fun _ _ => readDuration_inv) (by decide)
  polls := reads.pollInterval.of_read (fun _ _ => readPositive_inv) (by decide)
  asks := reads.httpTimeout.of_read (fun _ _ => readPositive_inv) (by decide)
  confirms := reads.transactionTimeout.of_read (fun _ _ => readPositive_inv) (by decide)

/-! ### Values that are read as what they are -/

theorem readNonempty_str {text : String} (given : text ≠ "") :
    readNonempty (.str text) = .ok text := by
  simp [readNonempty, readText, given, bind, Except.bind, pure, Except.pure]

theorem readBase_str {location : String} (bare : location.toList.getLast? ≠ some '/') :
    readBase (.str location) = .ok location := by
  simp [readBase, readText, Except.map, Http.Location.base_of_bare bare]

theorem readNonemptyBase_str {location : String} (given : location ≠ "")
    (bare : location.toList.getLast? ≠ some '/') :
    readNonemptyBase (.str location) = .ok location := by
  rw [readNonemptyBase, readNonempty_str given, Except.map, Http.Location.base_of_bare bare]

theorem readOptional_map (text? : Option String) :
    readOptional ((text?.map Json.str).getD .null) = .ok text? := by
  cases text? <;> rfl

theorem readNetwork_code {network : Network}
    (known : Network.ofCode? network.code = some network) :
    readNetwork (.int network.code) = .ok network := by
  simp [readNetwork, networkOfCode, Json.integer?, known]

theorem readBool_bool (flag : Bool) : readBool (.bool flag) = .ok flag := by
  cases flag <;> rfl

theorem readPositiveInteger_int {n : Int} (positive : 0 < n) :
    readPositiveInteger (.int n) = .ok n := by
  simp [readPositiveInteger, readInteger, positive, bind, Except.bind, pure, Except.pure]

theorem readDuration_float {x : Binary64} (fits : Binary64.zero.le x = true) :
    readDuration (.float x) = .ok x := by
  simp [readDuration, readFloat, fits, bind, Except.bind, pure, Except.pure]

theorem readPositive_float {x : Binary64} (positive : Binary64.zero.lt x = true) :
    readPositive (.float x) = .ok x := by
  simp [readPositive, readFloat, positive, bind, Except.bind, pure, Except.pure]

/-- The values of sound settings are read as what they are, in whatever look-up finds them, if
there is a location of the hub. -/
theorem Sound.reads {fields : List (String × Json)} (sound : Sound settings)
    (located : settings.hubUrl ≠ "") (isDocument : settings.document = .obj fields)
    (finds : ∀ name value, Json.find? name fields = some value → find name = some value) :
    Reads find settings := by
  cases isDocument
  have given {α : Type} {name : String} {read : Json → Read α} {value : α} {document : Json}
      (found : Json.find? name _ = some document) (isRead : read document = .ok value) :
      Given find name read value := ⟨document, finds name document found, isRead⟩
  exact
    { nodeUrl := given rfl (readNonempty_str sound.node)
      custodyKey := given rfl rfl
      hubUrl := given rfl (readNonemptyBase_str located sound.hub)
      hubCredentials := .inl (given rfl (readOptional_map _))
      recoveryAddress := .inl (given rfl (readOptional_map _))
      network := .inl (given rfl (readNetwork_code sound.network))
      chainId := .inl (given rfl (readPositiveInteger_int sound.chain))
      nameUrl := .inl (given rfl (readBase_str sound.name))
      accountGateway := .inl (given rfl rfl)
      accountRegistry := .inl (given rfl rfl)
      keyGateway := .inl (given rfl rfl)
      keyRegistry := .inl (given rfl rfl)
      settleSeconds := .inl (given rfl (readDuration_float sound.settles))
      pollsVisibility := .inl (given rfl (readBool_bool _))
      visibilityTimeout := .inl (given rfl (readDuration_float sound.waits))
      pollInterval := .inl (given rfl (readPositive_float sound.polls))
      verifiesSuppliedKey := .inl (given rfl (readBool_bool _))
      httpTimeout := .inl (given rfl (readPositive_float sound.asks))
      transactionTimeout := .inl (given rfl (readPositive_float sound.confirms)) }

/-- The values of accepted settings are accepted again, as the same settings, exactly if there is
a location of the hub among them. -/
theorem Sound.ofSources_iff {fields : List (String × Json)} {sources : Sources}
    {rebuilt : Settings} (sound : Sound settings) (isDocument : settings.document = .obj fields)
    (isGiven : sources.given = fields) :
    ofSources sources = .ok rebuilt ↔ settings.hubUrl ≠ "" ∧ rebuilt = settings := by
  have finds (name : String) (value : Json) (found : Json.find? name fields = some value) :
      sources.find name = some value := by
    rw [Sources.find, isGiven, found]
  have again (located : settings.hubUrl ≠ "") : ofSources sources = .ok settings :=
    ofSources_ok_iff.mpr (sound.reads located isDocument finds)
  constructor
  · intro accepted
    obtain ⟨document, found, read⟩ := (ofSources_ok_iff.mp accepted).hubUrl
    obtain ⟨text, rfl, given, -⟩ := readNonemptyBase_inv read
    cases isDocument
    cases (finds "hub_url" _ rfl).symm.trans found
    exact ⟨given, Except.ok.inj (accepted.symm.trans (again given))⟩
  · rintro ⟨located, rfl⟩
    exact again located

/-- Accepted settings have the location of the node as it was supplied, and not empty, and those of
the hub and of the naming authority as they were supplied, but for the slashes at their end, so
that whoever works with them finds nothing more to drop. The location of the hub is empty exactly
if it was supplied as slashes alone. Handed in again, whatever stands in the environment, the
values are accepted and unchanged exactly if it is not, and else they are refused. -/
theorem accepted_endpoints {sources : Sources} (accepted : ofSources sources = .ok settings) :
    (settings.nodeUrl ≠ "" ∧ sources.Supplies "rpc_url" (.str settings.nodeUrl)) ∧
    (∃ text, sources.Supplies "hub_url" (.str text) ∧ text ≠ "" ∧
      Http.Location.Strips text settings.hubUrl ∧
      (settings.hubUrl = "" ↔ ∀ c ∈ text.toList, c = '/')) ∧
    (∃ text, (sources.Supplies "fname_url" (.str text) ∨
        (∀ value, ¬sources.Supplies "fname_url" value) ∧ text = "https://fnames.farcaster.xyz") ∧
      Http.Location.Strips text settings.nameUrl) ∧
    (∀ credentials, (Hub.ofUrl settings.hubUrl credentials).base = settings.hubUrl) ∧
    (NamingAuthority.ofUrl settings.nameUrl).base = settings.nameUrl ∧
    ∀ fields environment file marker rebuilt, settings.document = .obj fields →
      (ofSources ⟨fields, environment, file, marker⟩ = .ok rebuilt ↔
        settings.hubUrl ≠ "" ∧ rebuilt = settings) := by
  have reads := ofSources_ok_iff.mp accepted
  have sound := reads.sound
  refine ⟨⟨sound.node, ?_⟩, ?_, ?_, fun _ => Http.Location.base_of_bare sound.hub,
    Http.Location.base_of_bare sound.name, fun fields environment file marker rebuilt isDocument =>
      sound.ofSources_iff isDocument rfl⟩
  · obtain ⟨document, found, read⟩ := reads.nodeUrl
    rw [(readNonempty_inv read).1] at found
    exact Sources.find_eq_some_iff.mp found
  · obtain ⟨document, found, read⟩ := reads.hubUrl
    obtain ⟨text, rfl, given, isBase⟩ := readNonemptyBase_inv read
    rw [isBase]
    exact ⟨text, Sources.find_eq_some_iff.mp found, given, Http.Location.strips_base text,
      Http.Location.base_eq_empty_iff⟩
  · rcases reads.nameUrl with ⟨document, found, read⟩ | ⟨missing, isDefault⟩
    · obtain ⟨text, rfl, isBase⟩ := readBase_inv read
      rw [isBase]
      exact ⟨text, .inl (Sources.find_eq_some_iff.mp found), Http.Location.strips_base text⟩
    · refine ⟨_, .inr ⟨Sources.find_eq_none_iff.mp missing, rfl⟩, ⟨0, ?_⟩, sound.name⟩
      rw [isDefault, List.replicate_zero, List.append_nil]

/-! ### Locations from three places -/

/-- The location of the node is handed in, that of the hub stands in the environment, and that of
the naming authority nowhere. -/
def mixedSources : Sources :=
  ⟨[("rpc_url", .str "http://chain"), ("custody_private_key", .str "01")],
    [("FIDFORGE_HUB_URL", "http://hub//")], none, variablePrefix⟩

theorem mixedSources_locations :
    (ofSources mixedSources).toOption.map
      (fun settings => (settings.nodeUrl, settings.hubUrl, settings.nameUrl)) =
      some ("http://chain", "http://hub", "https://fnames.farcaster.xyz") := by
  decide +kernel

theorem mixedSources_usable :
    ∃ settings fields, ofSources mixedSources = .ok settings ∧
      Http.Location.Strips "http://hub//" settings.hubUrl ∧ settings.hubUrl = "http://hub" ∧
      settings.nodeUrl = "http://chain" ∧ settings.nameUrl = "https://fnames.farcaster.xyz" ∧
      settings.document = .obj fields ∧
      ofSources ⟨fields, [], none, variablePrefix⟩ = .ok settings := by
  have locations := mixedSources_locations
  cases accepted : ofSources mixedSources with
  | error failure =>
    rw [accepted] at locations
    cases locations
  | ok settings =>
    rw [accepted] at locations
    obtain ⟨node, hub, name⟩ : settings.nodeUrl = "http://chain" ∧ settings.hubUrl = "http://hub" ∧
        settings.nameUrl = "https://fnames.farcaster.xyz" := by
      simpa [Except.toOption] using locations
    obtain ⟨-, ⟨text, found, -, strips, -⟩, -, -, -, again⟩ := accepted_endpoints accepted
    have isText : mixedSources.find "hub_url" = some (.str "http://hub//") := rfl
    cases (Sources.find_eq_some_iff.mpr found).symm.trans isText
    refine ⟨settings, _, rfl, strips, hub, node, name, rfl, ?_⟩
    exact (again _ _ _ _ _ rfl).mpr ⟨by rw [hub]; decide, rfl⟩

/-- The location of the hub is given as a slash. -/
def slashSources : Sources :=
  ⟨[("rpc_url", .str "http://c:8545"), ("custody_private_key",
      .str "0xac0974bec39a17e36ba4a6b4d238ff944bacb478cbed5efcae784d7bf4f2ff80"),
    ("hub_url", .str "/")], [], none, variablePrefix⟩

/-- A slash is accepted as the location of the hub, nothing is left of it, and what is left is not
accepted. -/
theorem slash_accepted :
    ∃ settings fields, ofSources slashSources = .ok settings ∧ settings.hubUrl = "" ∧
      settings.document = .obj fields ∧
      ∀ rebuilt, ofSources ⟨fields, [], none, variablePrefix⟩ ≠ .ok rebuilt := by
  have accepted : ofSources slashSources = .ok (ofEndpoints "http://c:8545"
      "0xac0974bec39a17e36ba4a6b4d238ff944bacb478cbed5efcae784d7bf4f2ff80" "") := rfl
  have sound := (ofSources_ok_iff.mp accepted).sound
  refine ⟨_, _, accepted, rfl, rfl, fun rebuilt again => ?_⟩
  exact ((sound.ofSources_iff rfl rfl).mp again).1 rfl

end Settings

end Provisioning
