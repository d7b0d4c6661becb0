import Provisioning.CommandLine
import Provisioning.Proofs.Run.Resumption
import Provisioning.Proofs.Run.Unhindered

/-!
# Dry runs

A dry run has a ledger in memory that can pay for one account, and peers that accept
everything (`rehearser_unhindered`, `dryRunLedger_fresh`), so its stages all go through and
only the text can make it fail. Main statement: `execute_dry_run`. What is printed is told
apart by how its lines begin (`isKeyLine`), and the one line with a key holds the private key
of the signer (`ofKey_marked`).
-/

namespace Provisioning.CommandLine

open Contract Session

variable {custody : CustodySigner} {before : Session}

/-! ## The setting -/

/-- Neither an environment nor a file to take settings from. -/
def noSources : Settings.Sources :=
  ⟨[], [], none, Settings.variablePrefix⟩

/-- The provisioner of a dry run. -/
def rehearser (custody : CustodySigner) : Provisioner where
  settings :=
    { Settings.ofEndpoints "http://localhost:8545" developmentKey "http://localhost:3381" with
      settleSeconds := Binary64.ofInt 0 }
  custody := custody
  hub := Hub.ofUrl "http://localhost:3381" none
  authority := NamingAuthority.ofUrl "https://fnames.farcaster.xyz"

theorem exists_developer : ∃ custody, CustodySigner.ofKey (.str developmentKey) = .ok custody := by
  have isKey : (Hex.decodePadded? developmentKey.toList).any (fun bytes =>
      decide (bytes.length = 32 ∧ 0 < Bytes.toNat bytes ∧ Bytes.toNat bytes < Secp256k1.n)) =
        true := by decide +kernel
  rw [CustodySigner.ofKey]
  cases decoded : Hex.decodePadded? developmentKey.toList with
  | none => simp [decoded] at isKey
  | some bytes =>
    simp only [decoded, Option.any_some, decide_eq_true_eq] at isKey
    exact ⟨_, if_pos isKey⟩

theorem rehearser_unhindered (made : CustodySigner.ofKey (.str developmentKey) = .ok custody) :
    (rehearser custody).Unhindered where
  made := ⟨_, made⟩
  trusting := rfl
  patient := rfl
  atOnce := by
    show Binary64.zero.lt (Binary64.ofInt 0) = false
    decide +kernel
  known := rfl
  looksAt := by
    show Http.Location.path ((NamingAuthority.ofUrl "https://fnames.farcaster.xyz").base ++
      "/transfers/current") = _
    cbv
  claimsAt := by
    show Http.Location.path ((NamingAuthority.ofUrl "https://fnames.farcaster.xyz").base ++
      "/transfers") = _
    cbv
  submitsAt := by
    show Http.Location.path ((Hub.ofUrl "http://localhost:3381" none).base ++
      "/v1/submitMessage") = _
    cbv

theorem setUp_performs (made : CustodySigner.ofKey (.str developmentKey) = .ok custody) :
    Performs (setUp true noSources) before (.ok (rehearser custody)) []
      { before with chain := .ledger (dryRunLedger custody.address) } := by
  have settled : Settings.ofSources { noSources with given := dryRunSettings } =
      .ok (rehearser custody).settings := rfl
  have isCustody : CustodySigner.ofKey (.str (rehearser custody).settings.custodyKey) =
      .ok custody := made
  have provides : Provisioner.ofSettings (rehearser custody).settings = .ok (rehearser custody) := by
    rw [Provisioner.ofSettings, isCustody]
    rfl
  have settles : Performs (Chain.settle (Settings.ofSources
      { noSources with given := dryRunSettings })) before (.ok (rehearser custody).settings) []
      before := by
    rw [settled]
    exact .pure _
  exact settles.quiet_bind (.require_bind provides (.quiet_bind (.setChain _) (.pure _)))

theorem balanceOf_dryRunLedger (owner : String) :
    (dryRunLedger owner).balanceOf (dryRunLedger owner).address = 10 ^ 18 := by
  simp [dryRunLedger, Ledger.create, Ledger.balanceOf, Ledger.lookup]

theorem dryRunLedger_fresh (owner : String) : (dryRunLedger owner).Fresh owner where
  sender := rfl
  emits := rfl
  failures := rfl
  unregistered := rfl
  keys := rfl
  funded := by
    rw [balanceOf_dryRunLedger]
    show (10 : Int) ^ 15 ≤ 10 ^ 18
    decide
  held := by
    rw [balanceOf_dryRunLedger]
    decide
  isAccount := by
    show (1 : Int) ≤ 1000 ∧ (1000 : Int) < 2 ^ 256
    decide

/-! ## What is printed -/

/-- The line holds the secret of a signer. -/
def isKeyLine (line : String) : Bool :=
  keyLabel.toList.isPrefixOf line.toList

theorem isKeyLine_keyLabel (text : String) : isKeyLine (keyLabel ++ text) = true := by
  simp [isKeyLine, String.toList_append]

/-- Nothing but the key is printed as one. -/
theorem isKeyLine_lines {done : Provisioned} : ∀ line ∈ lines done, isKeyLine line = false := by
  -- A line is told from that of the key by its label, whatever stands behind it.
  have behind {start : String} (text : String)
      (starts : ∀ rest : List Char, keyLabel.toList.isPrefixOf (start.toList ++ rest) = false) :
      isKeyLine (start ++ text) = false := by
    rw [isKeyLine, String.toList_append]
    exact starts _
  intro line member
  rw [lines] at member
  rcases List.mem_append.mp member with inside | inside
  · simp only [List.mem_cons, List.not_mem_nil, or_false] at inside
    rcases inside with rfl | rfl | rfl | rfl
    all_goals exact behind _ fun _ => rfl
  · obtain ⟨publication, -, rfl⟩ := List.mem_map.mp inside
    rw [publicationLine, String.append_assoc, String.append_assoc]
    exact behind _ fun _ => rfl

theorem print_performs (line : String) :
    Performs (print line) before (.ok ⟨⟩) [.print line] before :=
  .of_trace fun _ => rfl

theorem printAll_performs (lines : List String) :
    Performs (lines.forM print) before (.ok ⟨⟩) (lines.map .print) before := by
  induction lines with
  | nil => exact .pure _
  | cons line rest ih => exact (print_performs line).bind ih

/-- The line with the key, if none was given. -/
def keyLines (options : Options) (signer : DelegatedSigner) : List String :=
  if options.signerKey.isNone then [keyLabel ++ Hex.marked signer.seed] else []

section Printed

variable {options : Options} {signer : DelegatedSigner} {report : List String}

/-- Behind a report without a key, one is printed exactly if none was given. -/
theorem length_filter_isKeyLine (quiet : ∀ line ∈ report, isKeyLine line = false) :
    ((report ++ keyLines options signer).filter isKeyLine).length =
      if options.signerKey = none then 1 else 0 := by
  have none : report.filter isKeyLine = [] := by
    refine List.filter_eq_nil_iff.mpr fun line member => ?_
    rw [quiet line member]
    exact Bool.false_ne_true
  rw [List.filter_append, none, keyLines]
  cases options.signerKey with
  | none =>
    have isKey := isKeyLine_keyLabel (Hex.marked signer.seed)
    simp [isKey]
  | some text => rfl

/-- The only key that is printed is the one that was not given. -/
theorem of_keyLabel_mem {text : String} (quiet : ∀ line ∈ report, isKeyLine line = false)
    (member : keyLabel ++ text ∈ report ++ keyLines options signer) :
    options.signerKey = none ∧ text = Hex.marked signer.seed := by
  rcases List.mem_append.mp member with inside | inside
  · have isKey := isKeyLine_keyLabel text
    rw [quiet _ inside] at isKey
    cases isKey
  · rw [keyLines] at inside
    cases given : options.signerKey with
    | none =>
      rw [given] at inside
      exact ⟨rfl, by simpa using inside⟩
    | some key =>
      rw [given] at inside
      cases inside

/-- The private key as it is printed makes the signer that it is of. -/
theorem ofKey_marked {seed : Bytes} (sized : seed.length = 32) (state : SignerState) :
    DelegatedSigner.ofKey (.str (Hex.marked seed)) state = .ok (.ofSeed seed state) := by
  have isText : (Hex.marked seed).toList = '0' :: 'x' :: (Hex.encode seed).toList := by
    rw [Hex.marked, String.toList_append]
    rfl
  have isSeed : DelegatedSigner.seedOf (.str (Hex.marked seed)) = .ok seed := by
    simp [DelegatedSigner.seedOf, isText, Hex.decode_encode, DelegatedSigner.seedOf.ofLength, sized]
  rw [DelegatedSigner.ofKey, isSeed]
  rfl

end Printed

/-! ## From the run to the exit code -/

section Exit

variable {options : Options} {provisioner : Provisioner} {sources : Settings.Sources}
variable {moves : List Move} {after : Session}

/-- The key of a command line. -/
def keyOf (options : Options) : Option SigningKey :=
  options.signerKey.map fun text => .material (.str text)

/-- A run that has a result is reported, and then its key. -/
theorem provision_done {done : Provisioned}
    (runs : Performs (provisioner.run (keyOf options) (.str options.text)) before (.ok done) moves
      after) :
    Performs (provision options provisioner) before (.ok ())
      (moves ++ (lines done ++ keyLines options done.signer).map .print) after := by
  have printsKey : Performs (if (keyOf options).isNone then printKey done.signer else pure ())
      after (.ok ()) ((keyLines options done.signer).map .print) after := by
    unfold keyOf keyLines
    cases options.signerKey with
    | none => exact print_performs _
    | some text => exact .pure _
  rw [List.map_append]
  exact runs.tryCatch_ok.bind ((printAll_performs _).bind printsKey)

/-- Of a run that fails, the key is printed that was kept. -/
theorem provision_failed {failure : Failure} {signer : DelegatedSigner}
    (runs : Performs (provisioner.run (keyOf options) (.str options.text)) before
      (.error failure) moves after) (kept : after.kept = some signer) :
    Performs (provision options provisioner) before (.error failure)
      (moves ++ (keyLines options signer).map .print) after := by
  refine .bind_error (runs.tryCatch_error (.get_bind fun journal => ?_))
  simp only [kept]
  unfold keyLines
  cases options.signerKey with
  | none => exact (print_performs _).bind_quiet (.throw failure)
  | some text => exact .throw failure

theorem execute_performs {session left : Session} {ending : Ending} {code : Nat}
    (performs : Performs (perform options sources) session (.ok code) moves after)
    (ran : execute (.run options) sources session = (ending, left)) :
    ending = .done code ∧ Makes moves session left ∧ ∃ journal, left = { after with journal } := by
  obtain ⟨journal, run, makes⟩ := performs.runs
  have ends : execute (.run options) sources session = (.done code, { after with journal }) := by
    rw [execute]
    rw [Runs] at run
    rw [run]
  rw [ends] at ran
  obtain ⟨rfl, rfl⟩ := Prod.mk.inj ran
  exact ⟨rfl, makes, journal, rfl⟩

end Exit

/-! ## Dry runs -/

/-- What a dry run prints, leaves on the ledger, and ends in. The text alone decides how it
ends. A key is printed exactly if none was given, and it is the private key of the one key
that the ledger knows of, bound to the account. -/
structure Rehearses (options : Options) (lines : List String) (ledger : Ledger)
    (outcome : Except Failure Nat) (ending : Ending) : Prop where
  done : Body.Postable options.text → outcome = .ok 0 ∧ ending = .done 0
  refused : ¬Body.Postable options.text → ending = .done 1 ∧ ∃ reason cause,
    outcome = .error (.messageConstruction (.int 1000) reason cause)
  account : ledger.accountOf ledger.address = 1000
  counted : (lines.filter isKeyLine).length = if options.signerKey = none then 1 else 0
  told : ∀ text, keyLabel ++ text ∈ lines → ∃ signer,
    DelegatedSigner.ofKey (.str text) .unregistered = .ok signer ∧
    ∀ account publicKey, ledger.keyState account publicKey = .added ↔
      account = 1000 ∧ publicKey = signer.publicKey

theorem attempt_performs {options : Options} {now : Int} {session : Session}
    (isDry : options.dryRun = true) (accepts : session.peers.Accepts)
    (unnamed : session.peers.openNames = []) (telling : session.clock.unix = .ok now)
    (isNow : NetworkTime.epoch ≤ now ∧ now < 2 ^ 64)
    (keyed : ∀ text ∈ options.signerKey, ∃ signer,
      DelegatedSigner.ofKey (.str text) .unregistered = .ok signer) :
    ∃ (itinerary : Itinerary) (taken : DelegatedSigner) (ledger : Ledger)
      (report : List String) (outcome : Except Failure Nat) (after : Session),
      itinerary.IsComplete (Hub.ofUrl "http://localhost:3381" none)
        (NamingAuthority.ofUrl "https://fnames.farcaster.xyz") 1000 (keyOf options) options.text ∧
      Provisioner.Secures (keyOf options) 1000 session taken ledger ∧
      after.chain = .ledger ledger ∧ (∀ line ∈ report, isKeyLine line = false) ∧
      (Body.Postable options.text → outcome = .ok 0) ∧
      (¬Body.Postable options.text → ∃ reason cause,
        outcome = .error (.messageConstruction (.int 1000) reason cause)) ∧
      Performs (attempt options noSources) session outcome
        (itinerary.moves ++ (report ++ keyLines options taken).map .print) after := by
  obtain ⟨custody, made⟩ := exists_developer
  have named : Body.profileUpdate (.int ProfileField.username.code)
      (.str (NamingAuthority.fallbackName (.int 1000))) =
      .ok (.profile .username (.str "fid-1000")) := rfl
  have handed : ∀ material ∈ keyOf options, ∃ signer, SigningKey.toSigner material = .ok signer := by
    intro material member
    obtain ⟨text, isText, rfl⟩ := Option.map_eq_some_iff.mp member
    exact keyed text isText
  have none : Json.find? (Json.int 1000).text session.peers.openNames = none := by
    rw [unnamed]
    rfl
  obtain ⟨itinerary, taken, ledger, outcome, after, complete, secures, chain, kept, ends, runs⟩ :=
    @Provisioner.run_performs { session with chain := .ledger (dryRunLedger custody.address) }
      (dryRunLedger custody.address) (rehearser custody) (keyOf options) now _
      (rehearser_unhindered made) rfl (dryRunLedger_fresh custody.address) accepts none handed
      telling isNow named options.text
  have attempts {outcome : Except Failure Unit} {printed : List String}
      (provides : Performs (provision options (rehearser custody))
        { session with chain := .ledger (dryRunLedger custody.address) } outcome
        (itinerary.moves ++ printed.map .print) after) :
      Performs (attempt options noSources) session (outcome.map fun _ => 0)
        (itinerary.moves ++ printed.map .print) after := by
    unfold attempt
    rw [isDry]
    refine (setUp_performs made).quiet_bind ?_
    cases outcome with
    | ok => exact provides.bind_quiet (.pure 0)
    | error failure => exact provides.bind_error
  -- Both ways to end print the key: behind the report, or alone, from what the run has kept.
  by_cases fits : Body.Postable options.text
  · obtain ⟨-, -, publications, rfl⟩ := ends.posted fits
    exact ⟨itinerary, taken, ledger, _, .ok 0, after, complete, secures.of_chain, chain,
      isKeyLine_lines, fun _ => rfl, fun unfit => absurd fits unfit,
      attempts (provision_done runs)⟩
  · obtain ⟨-, -, reason, cause, rfl⟩ := ends.refused fits
    exact ⟨itinerary, taken, ledger, [], .error _, after, complete, secures.of_chain, chain,
      by simp, fun posted => absurd posted fits, fun _ => ⟨reason, cause, rfl⟩,
      attempts (provision_failed runs kept)⟩

/-- What is attempted decides on the exit code, and nothing more is done then. -/
theorem perform_performs {options : Options} {sources : Settings.Sources} {session after : Session}
    {moves : List Move} {outcome : Except Failure Nat}
    (performs : Performs (attempt options sources) session outcome moves after)
    (reported : ∀ failure, outcome = .error failure → isReported failure = true) :
    Performs (perform options sources) session (.ok (outcome.toOption.getD 1)) moves after := by
  cases outcome with
  | ok code => exact performs.tryCatch_ok
  | error failure =>
    have handled : Performs (if isReported failure then do
        note .error .commandLine failure.message
        return 1
      else throw failure : Action Nat) after (.ok 1) [] after := by
      rw [if_pos (reported failure rfl)]
      exact .note_bind (.pure 1)
    have both : Performs (perform options sources) session (.ok 1) (moves ++ []) after :=
      performs.tryCatch_error handled
    rwa [List.append_nil] at both

/-- A dry run without an environment goes through all stages, whatever the text: one account
is registered, a key is bound exactly if none is given, and one name is claimed. If the text
has from one to 320 bytes, the profile and the post are accepted and the exit code is zero.
Otherwise the post cannot be made, nothing is submitted, and the exit code is one. -/
theorem execute_dry_run {options : Options} {clock : Clock} {seeds : List Bytes} {now : Int}
    {ending : Ending} {after : Session} (isDry : options.dryRun = true)
    (telling : clock.unix = .ok now) (isNow : NetworkTime.epoch ≤ now ∧ now < 2 ^ 64)
    (sized : ∀ seed ∈ seeds, seed.length = 32)
    (keyed : ∀ text ∈ options.signerKey, ∃ signer,
      DelegatedSigner.ofKey (.str text) .unregistered = .ok signer)
    (ran : execute (.run options) noSources (opening clock seeds []) = (ending, after)) :
    ∃ (itinerary : Itinerary) (lines : List String) (ledger : Ledger)
      (outcome : Except Failure Nat) (attempted : Session),
      Runs (attempt options noSources) (opening clock seeds []) outcome attempted ∧
      Makes (itinerary.moves ++ lines.map .print) (opening clock seeds []) after ∧
      itinerary.IsComplete (Hub.ofUrl "http://localhost:3381" none)
        (NamingAuthority.ofUrl "https://fnames.farcaster.xyz") 1000 (keyOf options) options.text ∧
      after.chain = .ledger ledger ∧ Rehearses options lines ledger outcome ending := by
  have accepts : (opening clock seeds []).peers.Accepts := ⟨rfl, rfl⟩
  obtain ⟨itinerary, taken, ledger, report, outcome, left, complete, secures, chain, quiet, posted,
    refused, performs⟩ := attempt_performs isDry accepts rfl telling isNow keyed
  obtain ⟨journal, runs, -⟩ := performs.runs
  have reported : ∀ failure, outcome = .error failure → isReported failure = true := by
    intro failure isError
    by_cases fits : Body.Postable options.text
    · rw [posted fits] at isError
      cases isError
    · obtain ⟨reason, cause, isRefusal⟩ := refused fits
      rw [isRefusal] at isError
      cases isError
      rfl
  obtain ⟨rfl, makes, journal', rfl⟩ := execute_performs (perform_performs performs reported) ran
  refine ⟨itinerary, report ++ keyLines options taken, ledger, outcome, _, runs, makes, complete,
    chain, ?_⟩
  refine ⟨?_, ?_, secures.account, length_filter_isKeyLine quiet, ?_⟩
  · intro fits
    rw [posted fits]
    exact ⟨rfl, rfl⟩
  · intro unfit
    obtain ⟨reason, cause, isRefusal⟩ := refused unfit
    rw [isRefusal]
    exact ⟨rfl, reason, cause, rfl⟩
  · intro text member
    obtain ⟨isNone, rfl⟩ := of_keyLabel_mem quiet member
    have fresh : keyOf options = none := by
      rw [keyOf, isNone]
      rfl
    have length : taken.seed.length = 32 := by
      rw [secures.seed fresh]
      exact Authorization.length_nextSeed sized
    refine ⟨.ofSeed taken.seed .unregistered, ofKey_marked length _, ?_⟩
    have bound := secures.bound fresh
    rw [taken.publicKey_eq] at bound
    exact bound

/-- A greeting, in a dry run without a key. -/
def sampleOptions : Options := ⟨"gm", none, true, false⟩

/-- The session in which the greeting is rehearsed. -/
def sampleOpening : Session :=
  opening (Clock.ofStart (Binary64.ofInt 1700000000)) [] []

theorem sampleOptions_rehearsed :
    ∃ (ending : Ending) (after : Session) (itinerary : Itinerary) (lines : List String)
      (ledger : Ledger),
      execute (.run sampleOptions) noSources sampleOpening = (ending, after) ∧
      Makes (itinerary.moves ++ lines.map .print) sampleOpening after ∧
      (∃ move ∈ itinerary.binding, move.Succeeded) ∧ itinerary.posting ≠ none ∧
      after.chain = .ledger ledger ∧ Rehearses sampleOptions lines ledger (.ok 0) ending ∧
      ending = .done 0 := by
  have time : sampleOpening.clock.time.truncate? = some 1700000000 := by decide +kernel
  have telling : sampleOpening.clock.unix = .ok 1700000000 := by
    simp only [Clock.unix, Json.toInt, time]
  have keyed : ∀ text ∈ sampleOptions.signerKey, ∃ signer,
      DelegatedSigner.ofKey (.str text) .unregistered = .ok signer := by
    simp [sampleOptions]
  have ran := (Prod.eta (execute (.run sampleOptions) noSources sampleOpening)).symm
  obtain ⟨itinerary, lines, ledger, outcome, attempted, -, makes, complete, chain, rehearses⟩ :=
    execute_dry_run rfl telling (by decide) (by simp) keyed ran
  have fits : Body.Postable sampleOptions.text := by
    refine ⟨?_, ?_⟩ <;> decide
  obtain ⟨rfl, ends⟩ := rehearses.done fits
  obtain ⟨move, binds⟩ := Option.ne_none_iff_exists'.mp (complete.fresh.mpr rfl)
  exact ⟨_, _, itinerary, lines, ledger, ran, makes, ⟨move, binds, (complete.binds move binds).2⟩,
    (complete.posted fits).2, chain, rehearses, ends⟩

end Provisioning.CommandLine
