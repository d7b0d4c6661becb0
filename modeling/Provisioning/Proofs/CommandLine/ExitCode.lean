import Provisioning.Proofs.CommandLine.DryRun
import Provisioning.Proofs.Run.NameText

/-!
# Exit codes

Behind the setting up a command line does nothing that can fail but the run (`conduct_inv`):
it ends with the exit code zero, or with the exit code one and a note of what is wrong
(`Orderly`), or with a failure that nobody reports. The failures that are documented for a run
are all reported, and so the name that the naming authority answers decides on the exit code
as it decides on the run (`run_documented_iff`).
-/

namespace Provisioning.CommandLine

open Contract Session

variable {options : Options} {sources : Settings.Sources} {provisioner : Provisioner}
variable {opened before after left : Session} {ended : Except Failure Nat}

/-! ## Behind the setting up -/

/-- What is made of a failure: if it is to be reported, a note and the exit code one. -/
def report (failure : Failure) : Action Nat := do
  if isReported failure then
    note .error .commandLine failure.message
    return 1
  else throw failure

/-- What a command line attempts with a provisioner. -/
def work (options : Options) (provisioner : Provisioner) : Action Nat := do
  provision options provisioner
  return 0

/-- What a command line does with a provisioner. -/
def conduct (options : Options) (provisioner : Provisioner) : Action Nat :=
  tryCatch (work options provisioner) report

theorem attempt_eq (options : Options) (sources : Settings.Sources) :
    attempt options sources = setUp options.dryRun sources >>= work options := rfl

theorem perform_eq (options : Options) (sources : Settings.Sources) :
    perform options sources = tryCatch (attempt options sources) report := rfl

/-- A command line that is set up goes on with its provisioner. -/
theorem perform_conducts (run : Runs (perform options sources) opened ended left)
    (setsUp : Runs (setUp options.dryRun sources) opened (.ok provisioner) before) :
    Runs (conduct options provisioner) before ended left := by
  have attempts {outcome : Except Failure Nat} {middle : Session}
      (run : Runs (attempt options sources) opened outcome middle) :
      Runs (work options provisioner) before outcome middle := by
    rw [attempt_eq] at run
    rcases run.bind_inv with ⟨provisioner', before', setsUp', rest⟩ | ⟨failure, setsUp', -⟩
    · obtain ⟨same, rfl⟩ := setsUp'.unique setsUp
      cases same
      exact rest
    · cases (setsUp'.unique setsUp).1
  rw [perform_eq] at run
  rw [conduct]
  rcases run.tryCatch_inv with ⟨code, done, rfl⟩ | ⟨failure, middle, failed, reported⟩
  · exact (attempts done).tryCatch_ok
  · exact (attempts failed).tryCatch_error reported

/-- Lines are printed without fail. -/
theorem printAll_inv {lines : List String} {outcome : Except Failure PUnit}
    (run : Runs (lines.forM print) before outcome after) : outcome = .ok ⟨⟩ := by
  obtain ⟨journal, run', -⟩ := (printAll_performs lines).runs
  exact (run.unique run').1

/-- Provisioning ends as the run does: printing cannot fail. -/
theorem provision_inv {outcome : Except Failure Unit}
    (run : Runs (provision options provisioner) before outcome after) :
    ∃ result middle, Runs (provisioner.run (keyOf options) (.str options.text)) before result middle ∧
      outcome = result.map fun _ => () := by
  have printsKey {signer : DelegatedSigner} {outcome : Except Failure Unit} {before after : Session}
      (run : Runs (if (keyOf options).isNone then printKey signer else pure ()) before outcome
        after) : outcome = .ok () := by
    split at run
    · exact run.modify_inv.1
    · exact run.pure_inv.1
  obtain ⟨result, middle, tried, rest⟩ := run.bind_ends
  have ran : ∃ left, Runs (provisioner.run (keyOf options) (.str options.text)) before result
      left := by
    rcases tried.tryCatch_inv with ⟨value, ran, rfl⟩ | ⟨failure, left, ran, handled⟩
    · exact ⟨middle, ran⟩
    · -- A failure is passed on, whether or not a key is printed with it.
      have passedOn : result = .error failure := by
        have handled := handled.get_bind
        split at handled
        · dsimp only at handled
          split at handled
          · exact (Runs.modify_bind handled).throw_inv.1
          · exact handled.throw_inv.1
        · exact handled.throw_inv.1
      exact ⟨left, passedOn ▸ ran⟩
  obtain ⟨left, ran⟩ := ran
  refine ⟨result, left, ran, ?_⟩
  rcases rest with ⟨done, rfl, printing⟩ | ⟨failure, rfl, rfl⟩
  · rcases printing.bind_inv with ⟨_, printed, -, keying⟩ | ⟨failure, printed, -⟩
    · exact printsKey keying
    · cases printAll_inv printed
  · rfl

/-- A command line ends with the exit code zero, or with the exit code one and, behind
everything else, a note of what is wrong. -/
inductive Orderly (left : Session) : Except Failure Nat → Prop where
  | done : Orderly left (.ok 0)
  | reported {journal : List Happening} {message : String}
      (noted : left.journal = journal ++ [.noted .error .commandLine message]) :
      Orderly left (.ok 1)

/-- A command line ends in order, unless its run fails with what is not reported. -/
theorem conduct_inv (run : Runs (conduct options provisioner) before ended left) :
    ∃ outcome after, Runs (provisioner.run (keyOf options) (.str options.text)) before outcome
        after ∧
      (Orderly left ended ↔ ∀ failure, outcome = .error failure → isReported failure = true) := by
  rw [conduct] at run
  rcases run.tryCatch_inv with ⟨code, done, rfl⟩ | ⟨failure, middle, failed, reported⟩
  · rcases Runs.bind_inv done with ⟨_, provisioned, provides, returns⟩ | ⟨failure, -, isError⟩
    · obtain ⟨result, after, ran, isOk⟩ := provision_inv provides
      obtain ⟨isCode, rfl⟩ := returns.pure_inv
      cases isCode
      refine ⟨result, after, ran, iff_of_true .done ?_⟩
      rintro failure rfl
      cases isOk
    · cases isError
  · rcases Runs.bind_inv failed with ⟨_, provisioned, -, returns⟩ | ⟨reason, provides, isError⟩
    · cases returns.pure_inv.1
    · cases isError
      obtain ⟨result, after, ran, isError⟩ := provision_inv provides
      cases result with
      | ok done => cases isError
      | error reason =>
        cases isError
        refine ⟨_, after, ran, ?_⟩
        unfold report at reported
        split at reported
        · next isReported =>
          obtain ⟨rfl, rfl⟩ := reported.note_bind.pure_inv
          refine iff_of_true (.reported rfl) ?_
          rintro failure isFailure
          cases isFailure
          exact isReported
        · next unreported =>
          obtain ⟨rfl, -⟩ := reported.throw_inv
          exact iff_of_false (fun ends => by cases ends) fun all => unreported (all failure rfl)

theorem isReported_of_provisioning {failure : Failure} (documented : failure.isProvisioning = true) :
    isReported failure = true := by
  cases failure with
  | fault => cases documented
  | _ => rfl

/-! ## The exit code of a run -/

/-- On the custody account's ledger, and with every request answered, a run keeps to the failures
that are documented for it exactly if every name that the naming authority answered was a text;
and exactly then a command line with its key and its text ends in order. -/
theorem run_documented_iff {ledger : Ledger} {key : Option SigningKey} {text : String}
    {outcome : Except Failure Provisioned}
    (ran : Runs (provisioner.run key (.str text)) before outcome after)
    (placed : provisioner.Placed ledger before) (answered : provisioner.Answered before)
    (valid : ∀ handed ∈ key, ∃ signer, handed.toSigner = .ok signer) :
    (Documented outcome ↔ Grows provisioner.authority.TellsText before after) ∧
    ∀ options ended left, keyOf options = key → options.text = text →
      (Runs (conduct options provisioner) before ended left →
        (Orderly left ended ↔ Grows provisioner.authority.TellsText before after)) ∧
      ∀ sources opened, Runs (setUp options.dryRun sources) opened (.ok provisioner) before →
        Runs (perform options sources) opened ended left →
          (Orderly left ended ↔ Grows provisioner.authority.TellsText before after) := by
  have tells := Provisioner.run_ended ran placed answered valid
  have ends {options : Options} {ended : Except Failure Nat} {left : Session}
      (isKey : keyOf options = key) (isText : options.text = text)
      (conducts : Runs (conduct options provisioner) before ended left) :
      Orderly left ended ↔ Grows provisioner.authority.TellsText before after := by
    obtain ⟨outcome', after', ran', orderly⟩ := conduct_inv conducts
    rw [isKey, isText] at ran'
    obtain ⟨rfl, rfl⟩ := ran.unique ran'
    rw [orderly]
    cases tells with
    | documented documented texts =>
      exact iff_of_true (fun failure isError => isReported_of_provisioning
        (documented failure isError)) texts
    | faulty detail strays =>
      exact iff_of_false (fun all => Bool.false_ne_true (all _ rfl)) strays.not_texts
  refine ⟨tells.iff_texts, fun options ended left isKey isText => ⟨ends isKey isText, ?_⟩⟩
  intro sources opened setsUp performs
  exact ends isKey isText (perform_conducts performs setsUp)

/-! ### Names that do not fit -/

/-- The owner with the least secret. -/
def sampleWorker : Provisioner where
  settings := Settings.ofEndpoints "http://chain" "01" "http://hub"
  custody := Authorization.leastCustody
  hub := ⟨"http://hub", none⟩
  authority := ⟨"http://names"⟩

/-- A greeting, signed with a key that is handed in. -/
def handedOptions : Options := ⟨"hi", some (Hex.marked (List.replicate 32 1)), false, false⟩

/-- A session of an owner with an account; a lookup is answered with the name, and everything
else with nothing. -/
def namedSession (name : Json) : Session :=
  { Authorization.ownerSession with
    peers := { Peers.silent with
      queue := [.ofJson 200 (.obj [("username", name)]), .ofText 200 "", .ofText 200 "",
        .ofText 200 ""].map Peers.answerOf } }

theorem accountOf_ownedLedger :
    Authorization.ownedLedger.accountOf Authorization.leastCustody.address = 7 :=
  Ledger.accountOf_setAccount _ _ _

theorem namedSession_placed (name : Json) :
    sampleWorker.Placed Authorization.ownedLedger (namedSession name) := by
  have tells {clock : Clock} {now : Int} (time : clock.time.truncate? = some now)
      (isNow : 0 ≤ now ∧ now < 2 ^ 64) : clock.Telling := by
    refine ⟨now, ?_, isNow⟩
    rw [Clock.unix, Json.toInt, time]
  have account : 0 ≤ Authorization.ownedLedger.accountOf sampleWorker.custody.address ∧
      Authorization.ownedLedger.accountOf sampleWorker.custody.address < 2 ^ 256 := by
    rw [sampleWorker, accountOf_ownedLedger]
    decide
  have time : Authorization.ownerSession.clock.time.truncate? = some 1700000000 := by
    decide +kernel
  have later : (Authorization.ownerSession.clock.advance
      sampleWorker.settings.settleSeconds).time.truncate? = some 1700000030 := by
    decide +kernel
  exact ⟨⟨_, Authorization.ofKey_leastSecret⟩, rfl, rfl, congrArg Text.lower rfl, account,
    by decide, tells time (by decide), tells later (by decide)⟩

theorem namedSession_answered (name : Json) : sampleWorker.Answered (namedSession name) where
  answers := Peers.answers_of_queue [.ofJson 200 (.obj [("username", name)]), .ofText 200 "",
    .ofText 200 "", .ofText 200 ""] rfl
  looksAt := ⟨"/transfers/current", rfl⟩
  claimsAt := ⟨"/transfers", rfl⟩
  submitsAt := ⟨"/v1/submitMessage", rfl⟩

theorem handedOptions_valid :
    ∀ handed ∈ keyOf handedOptions, ∃ signer, handed.toSigner = .ok signer := by
  rintro handed ⟨⟩
  exact ⟨_, ofKey_marked (List.length_replicate ..) .unregistered⟩

/-- The name that the lookup is answered with decides how the run ends. -/
theorem namedSession_fails {name : Json} {fault : Fault} (regular : name.Regular)
    (given : name.truthy = true) (isFault : Provisioner.bodies name (.str "hi") = .error fault) :
    ∃ after, Runs (sampleWorker.run (keyOf handedOptions) (.str "hi")) (namedSession name)
      (.error (Provisioner.bodyFailure (.int 7) fault)) after := by
  have opens : Performs sampleWorker.opening (namedSession name) (.ok 7) [] (namedSession name) :=
    .note_bind (Account.ensure_registered_performs _ rfl accountOf_ownedLedger (by decide))
  obtain ⟨signer, isSigner⟩ := handedOptions_valid _ rfl
  have authorizes : Performs (Authorization.ensure sampleWorker.settings sampleWorker.custody
      sampleWorker.hub (.int 7) sampleWorker.custody.address (keyOf handedOptions))
      (namedSession name) (.ok (signer.mark .active)) [] (namedSession name) :=
    Authorization.ensure_some_performs rfl isSigner
  have finds := @NamingAuthority.lookup_named sampleWorker.authority
    { namedSession name with kept := some (signer.mark .active) } (.int 7) name
    "/transfers/current" (.ofJson 200 (.obj [("username", name)])) _ rfl rfl
    (NamingAuthority.names_ofJson regular given)
  have had : Performs (sampleWorker.authority.ensure sampleWorker.custody (.int 7)
      sampleWorker.custody.address) { namedSession name with kept := some (signer.mark .active) }
      (.ok name) _ _ := finds.bind_quiet (.note_bind (.pure _))
  obtain ⟨journal, run, -⟩ := (Provisioner.run_of_fault opens authorizes had isFault).runs
  exact ⟨_, run⟩

/-- A text that is no username is answered as the name, and the run ends as it is documented. -/
theorem namedSession_documented :
    ∃ outcome after ended left,
      Runs (sampleWorker.run (keyOf handedOptions) (.str "hi")) (namedSession (.str "No name"))
        outcome after ∧
      Documented outcome ∧ (∀ done, outcome ≠ .ok done) ∧
      Grows sampleWorker.authority.TellsText (namedSession (.str "No name")) after ∧
      Runs (conduct handedOptions sampleWorker) (namedSession (.str "No name")) ended left ∧
      Orderly left ended := by
  have regular : (Json.str "No name").Regular := by simp [Json.Regular]
  have isFault : Provisioner.bodies (.str "No name") (.str "hi") =
      .error (.refusal (.invalidUsername "No name")) := rfl
  obtain ⟨after, run⟩ := namedSession_fails regular rfl isFault
  obtain ⟨ended, left, conducts⟩ := Runs.exists_run (conduct handedOptions sampleWorker)
    (namedSession (.str "No name"))
  obtain ⟨tells, exits⟩ := run_documented_iff run (namedSession_placed _) (namedSession_answered _)
    handedOptions_valid
  have documented : Documented (.error (Provisioner.bodyFailure (.int 7)
      (.refusal (.invalidUsername "No name"))) : Except Failure Provisioned) :=
    fine_error_iff.mpr rfl
  have texts := tells.mp documented
  refine ⟨_, after, ended, left, run, documented, ?_, texts, conducts,
    ((exits handedOptions ended left rfl rfl).1 conducts).mpr texts⟩
  intro done isOk
  cases isOk

/-- A number is answered as the name: the run fails with a fault that is not documented for it,
and the command line does not end in order. -/
theorem numbered_name_escapes :
    ∃ outcome after ended left,
      sampleWorker.Placed Authorization.ownedLedger (namedSession (.int 5)) ∧
      sampleWorker.Answered (namedSession (.int 5)) ∧
      (∀ handed ∈ keyOf handedOptions, ∃ signer, handed.toSigner = .ok signer) ∧
      Runs (sampleWorker.run (keyOf handedOptions) (.str "hi")) (namedSession (.int 5)) outcome
        after ∧
      ¬Documented outcome ∧
      Runs (conduct handedOptions sampleWorker) (namedSession (.int 5)) ended left ∧
      ¬Orderly left ended := by
  have regular : (Json.int 5).Regular := by simp [Json.Regular]
  have isOther (text : String) : Json.int 5 ≠ .str text := fun same => by cases same
  obtain ⟨detail, isFault⟩ := Provisioner.bodies_of_other isOther (.str "hi")
  obtain ⟨after, run⟩ := namedSession_fails regular rfl isFault
  obtain ⟨ended, left, conducts⟩ := Runs.exists_run (conduct handedOptions sampleWorker)
    (namedSession (.int 5))
  have undocumented : ¬Documented (.error (Provisioner.bodyFailure (.int 7) (.operation detail)) :
      Except Failure Provisioned) := fun documented => Bool.false_ne_true (documented _ rfl)
  obtain ⟨outcome, after', run', orderly⟩ := conduct_inv conducts
  obtain ⟨rfl, -⟩ := run.unique run'
  have disorderly : ¬Orderly left ended := fun ends => Bool.false_ne_true (orderly.mp ends _ rfl)
  exact ⟨_, after, ended, left, namedSession_placed _, namedSession_answered _,
    handedOptions_valid, run, undocumented, conducts, disorderly⟩

end Provisioning.CommandLine
