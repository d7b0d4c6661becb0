import Provisioning.Proofs.Contract.NodeTransaction

/-!
# What can be made of an answer

Reading what a node answered ends in one of three ways: a value is read, or the errand
fails and the failure names the transaction, or some fault of the reading ends it that names
nothing. A `Verdict` tells these apart, and can be computed from the document alone: what
comes first in the document decides (`Verdict.andThen`). `Weighs verdict action` says that
an action only reads, and ends as the verdict says; it is kept by composition
(`Weighs.bind`). Main statements: `Remote.rewards_weighs` and `Remote.readReceipt_weighs`.
-/

namespace Provisioning

open Contract Session

/-- What comes of reading something. -/
inductive Verdict where
  /-- It is read. -/
  | read
  /-- It cannot be read, and the failure names the transaction. -/
  | refused
  /-- It cannot be read, and the fault names nothing. -/
  | stray
deriving DecidableEq

namespace Verdict

/-- The verdict on two things that are read one after the other. -/
def andThen : Verdict → Verdict → Verdict
  | .read, later => later
  | first, _ => first

/-- The verdict on things that are read in order. -/
def all {α : Type} (weigh : α → Verdict) : List α → Verdict
  | [] => .read
  | item :: rest => (weigh item).andThen (all weigh rest)

/-- The verdict that an outcome shows. -/
def of {α : Type} : Except Failure α → Verdict
  | .ok _ => .read
  | .error failure => if failure.isOfChain then .refused else .stray

/-- Something that is there, or a fault. -/
def given {α : Type} (weigh : α → Verdict) : Except Fault α → Verdict
  | .ok value => weigh value
  | .error _ => .stray

/-- Everything that a value can be gone through for. -/
def items (weigh : Json → Verdict) (value : Json) : Verdict :=
  given (all weigh) value.items

/-- A part of a document, if it is there. -/
def part (document : Json) (key : String) (weigh : Json → Verdict) : Verdict :=
  match document.get? key with
  | some part => weigh part
  | none => .read

theorem given_ne_stray_iff {α : Type} {weigh : α → Verdict} {value : Except Fault α} :
    given weigh value ≠ .stray ↔ ∃ a, value = .ok a ∧ weigh a ≠ .stray := by
  cases value with
  | ok a => simp [given]
  | error fault => simp [given]

theorem andThen_read (verdict : Verdict) : verdict.andThen .read = verdict := by
  cases verdict <;> rfl

end Verdict

/-- The action reads, and nothing else; what comes of it is the verdict. -/
def Weighs {α : Type} (verdict : Verdict) (action : Action α) : Prop :=
  ∀ ⦃before outcome after⦄, Runs action before outcome after →
    after = before ∧ Verdict.of outcome = verdict

namespace Weighs

variable {α β : Type} {errand : Errand} {verdict later : Verdict}

theorem pure (value : α) : Weighs .read (pure value) := by
  intro before outcome after run
  obtain ⟨rfl, rfl⟩ := run.pure_inv
  exact ⟨rfl, rfl⟩

theorem throw (failure : Failure) :
    Weighs (.of (.error failure : Except Failure α)) (throw failure : Action α) := by
  intro before outcome after run
  obtain ⟨rfl, rfl⟩ := run.throw_inv
  exact ⟨rfl, rfl⟩

theorem fail (reason : String) (cause : NodeFault) :
    Weighs .refused (errand.fail reason cause : Action α) :=
  throw (errand.failure reason cause)

/-- What is read first decides, and what is read behind it counts if it could be read. -/
theorem bind {action : Action α} {next : α → Action β} (first : Weighs verdict action)
    (rest : ∀ ⦃before value after⦄, Runs action before (.ok value) after →
      Weighs later (next value)) :
    Weighs (verdict.andThen later) (action >>= next) := by
  intro before outcome after run
  rcases run.bind_inv with ⟨value, middle, firstRun, restRun⟩ | ⟨failure, firstRun, rfl⟩
  · obtain ⟨rfl, rfl⟩ := first firstRun
    exact rest firstRun restRun
  · obtain ⟨rfl, rfl⟩ := first firstRun
    refine ⟨rfl, ?_⟩
    simp only [Verdict.of]
    cases failure.isOfChain <;> rfl

/-- A value that may be faulty, and what is read of it. -/
theorem require {value : Except Fault α} {next : α → Action β} {weigh : α → Verdict}
    (rest : ∀ a, value = .ok a → Weighs (weigh a) (next a)) :
    Weighs (.given weigh value) (Session.require value >>= next) := by
  intro before outcome after run
  rcases run.require_bind with ⟨a, isOk, restRun⟩ | ⟨fault, isFault, rfl, rfl⟩
  · rw [isOk]
    exact rest a isOk restRun
  · rw [isFault]
    exact ⟨rfl, rfl⟩

theorem require_ok {value : α} {next : α → Action β} (rest : Weighs verdict (next value)) :
    Weighs verdict (Session.require (.ok value) >>= next) :=
  fun _ _ _ run => rest run.require_ok_bind

theorem require_fault (fault : Fault) (next : α → Action β) :
    Weighs .stray (Session.require (.error fault) >>= next) := by
  intro before outcome after run
  obtain ⟨rfl, rfl⟩ := run.throw_bind
  exact ⟨rfl, rfl⟩

theorem discard {action : Action α} (weighs : Weighs verdict action) :
    Weighs verdict (discard action) := by
  have both : Weighs (verdict.andThen .read) (Functor.discard action) :=
    weighs.bind fun _ _ _ _ => pure PUnit.unit
  rwa [Verdict.andThen_read] at both

theorem forM {action : α → Action PUnit} {weigh : α → Verdict}
    (each : ∀ item, Weighs (weigh item) (action item)) (items : List α) :
    Weighs (.all weigh items) (items.forM action) := by
  induction items with
  | nil => exact pure PUnit.unit
  | cons item rest ih => exact (each item).bind fun _ _ _ _ => ih

theorem mapM {action : α → Action β} {weigh : α → Verdict}
    (each : ∀ item, Weighs (weigh item) (action item)) (items : List α) :
    Weighs (.all weigh items) (items.mapM action) := by
  induction items with
  | nil => exact pure []
  | cons item rest ih =>
    rw [List.mapM_cons]
    refine (each item).bind fun _ value _ _ => ?_
    have kept : Weighs ((Verdict.all weigh rest).andThen .read) (do
        let values ← rest.mapM action
        return value :: values) := ih.bind fun _ _ _ _ => pure _
    rwa [Verdict.andThen_read] at kept

/-- Everything that a value can be gone through for. -/
theorem items {action : Json → Action PUnit} {weigh : Json → Verdict}
    (each : ∀ item, Weighs (weigh item) (action item)) (value : Json) :
    Weighs (.items weigh value) (Session.require value.items >>= fun items => items.forM action) :=
  require fun items _ => forM each items

theorem part {check : Json → Action Unit} {weigh : Json → Verdict}
    (each : ∀ part, Weighs (weigh part) (check part)) (document : Json) (key : String) :
    Weighs (.part document key weigh) (Remote.checkPart document key check) := by
  unfold Remote.checkPart Verdict.part
  cases document.get? key with
  | some part => exact each part
  | none => exact pure PUnit.unit

end Weighs

/-! ## Numbers and bytes -/

namespace Errand

variable {errand : Errand}

/-- The verdict on the number that is read of a value; a text that writes none is refused. -/
def numberVerdict (weigh : Json → Verdict) (value : Json) : Verdict :=
  match numbered? value with
  | some number => weigh number
  | none => .refused

/-- Bytes are read from what writes them; what cannot even hold any is a fault. -/
def bytesVerdict (value : Json) : Verdict :=
  if !holdsBytes value then .stray
  else if (written? value).isSome then .read else .refused

def sizedVerdict (size : Nat) (value : Json) : Verdict :=
  if ((written? value).bind (fitted? size)).isSome then .read else .refused

theorem number_weighs {α : Type} {weigh : Json → Verdict} {next : Json → Action α}
    (rest : ∀ number, Weighs (weigh number) (next number)) (value : Json) :
    Weighs (numberVerdict weigh value) (errand.number value >>= next) := by
  intro before outcome after run
  rcases run.bind_inv with ⟨number, middle, numberRun, restRun⟩ | ⟨failure, numberRun, rfl⟩
  · obtain ⟨rfl, read⟩ := number_inv numberRun
    split at read
    · next told =>
      cases read
      rw [numberVerdict, told]
      exact rest number restRun
    · obtain ⟨_, _, isError⟩ := read
      cases isError
  · obtain ⟨rfl, read⟩ := number_inv numberRun
    split at read
    · cases read
    · next garbled =>
      obtain ⟨reason, cause, isError⟩ := read
      cases isError
      rw [numberVerdict, garbled]
      exact ⟨rfl, rfl⟩

theorem bytes_weighs (value : Json) : Weighs (bytesVerdict value) (errand.bytes value) := by
  unfold Errand.bytes bytesVerdict
  cases written : written? value with
  | some bytes =>
    rw [holdsBytes_of_written written]
    exact .pure _
  | none =>
    cases holds : holdsBytes value with
    | true =>
      obtain ⟨reason, cause, isFailure⟩ := unwritten_failure errand holds written
      dsimp only
      rw [isFailure]
      exact .fail reason cause
    | false =>
      cases value with
      | str | int | bool => cases holds
      | null | float | arr | obj => exact .throw _

theorem sized_weighs (size : Nat) (value : Json) :
    Weighs (sizedVerdict size value) (errand.sized size value) := by
  intro before outcome after run
  obtain ⟨rfl, read⟩ := sized_inv run
  refine ⟨rfl, ?_⟩
  unfold sizedVerdict
  split at read
  · next fits => rw [read, fits]; rfl
  · next unfit =>
    obtain ⟨reason, cause, same⟩ := read
    rw [same, unfit]
    rfl

end Errand

/-! ## Fees -/

namespace Contract.Remote

variable {errand : Errand}

/-- The verdict on a fee that a history tells. -/
def feeVerdict : Json → Verdict
  | .int _ => .read
  | _ => .stray

/-- The verdict on the first fee of a block. -/
def paidVerdict : List Json → Verdict
  | [] => .stray
  | fee :: _ => Errand.numberVerdict feeVerdict fee

/-- The verdict on a history of fees. -/
def historyVerdict (history : Json) : Verdict :=
  .given (Verdict.items fun block => .given paidVerdict block.items) (history.field "reward")

theorem rewards_weighs (history : Json) :
    Weighs (historyVerdict history) (rewards errand history) := by
  have fee (block : Json) : Weighs (.given paidVerdict block.items) (do
      match ← require block.items with
      | [] => throw (.fault .tooFew)
      | fee :: _ =>
        match ← errand.number fee with
        | .int n => return n.toNat
        | other => throw (.fault (.kind s!"no fee in '{other.kindName}'"))) := by
    refine .require fun fees _ => ?_
    cases fees with
    | nil => exact .throw _
    | cons fee _ =>
      refine Errand.number_weighs (fun number => ?_) fee
      cases number with
      | int n => exact .pure _
      | null | bool | float | str | arr | obj => exact .throw _
  refine .require fun reward _ => .require fun blocks _ => ?_
  exact .mapM fee blocks

/-! ## Receipts -/

/-- The verdict on an entry of a receipt. -/
def entryVerdict (entry : Json) : Verdict :=
  (Verdict.part entry "topics" (.items (Errand.sizedVerdict 32))).andThen
    (.part entry "data" Errand.bytesVerdict)

/-- The verdict on the parts of a receipt that must be there. -/
def presenceVerdict (document : Json) : Verdict :=
  if ["status", "blockNumber", "logs"].all fun key => (document.get? key).isSome then .read
  else .stray

/-- The verdict on the document of a receipt. -/
def receiptVerdict (document : Json) : Verdict :=
  let number := Errand.numberVerdict fun _ => .read
  (Verdict.part document "status" number).andThen
    ((Verdict.part document "blockNumber" number).andThen
      ((Verdict.part document "logs" (.items entryVerdict)).andThen (presenceVerdict document)))

theorem checkEntry_weighs (entry : Json) :
    Weighs (entryVerdict entry) (checkEntry errand entry) := by
  refine (Weighs.part (fun topics => ?_) entry "topics").bind fun _ _ _ _ => ?_
  · exact .items (fun topic => (Errand.sized_weighs 32 topic).discard) topics
  · exact .part (fun data => (Errand.bytes_weighs data).discard) entry "data"

theorem receiptNumber_weighs (document : Json) (key : String) :
    Weighs (.part document key (Errand.numberVerdict fun _ => .read))
      (receiptNumber errand document key) := by
  unfold Verdict.part receiptNumber
  cases document.get? key with
  | some value => exact Errand.number_weighs (fun number => .pure _) value
  | none => exact .pure _

/-- A receipt has the numbers that its document has. -/
theorem isSome_of_receiptNumber {document : Json} {key : String} {number? : Option Json}
    {before after : Session}
    (run : Runs (receiptNumber errand document key) before (.ok number?) after) :
    number?.isSome = (document.get? key).isSome := by
  unfold receiptNumber at run
  cases found : document.get? key with
  | some value =>
    rw [found] at run
    obtain ⟨number, middle, -, run⟩ := Runs.bind_ok_inv run
    obtain ⟨rfl, -⟩ := run.pure_ok_inv
    rfl
  | none =>
    rw [found] at run
    obtain ⟨rfl, -⟩ := run.pure_ok_inv
    rfl

/-- A member that must be there is the one that is found. -/
theorem field_of_get? {document value : Json} {key : String}
    (found : document.get? key = some value) : document.field key = .ok value := by
  cases document with
  | obj fields =>
    have found : Json.find? key fields = some value := found
    simp only [Json.field, found]
  | null | bool | int | float | str | arr => cases found

theorem field_of_missing {document : Json} {key : String} (missing : document.get? key = none) :
    ∃ fault, document.field key = .error fault := by
  cases document with
  | obj fields =>
    have missing : Json.find? key fields = none := missing
    exact ⟨.absent key, by simp only [Json.field, missing]⟩
  | null | bool | int | float | str | arr => exact ⟨_, rfl⟩

/-- Reading a receipt ends as the verdict on its document says. -/
theorem readReceipt_weighs (hash : String) (document : Json) :
    Weighs (receiptVerdict document) (readReceipt errand hash document) := by
  refine (receiptNumber_weighs document "status").bind fun _ status? _ statusRun => ?_
  refine (receiptNumber_weighs document "blockNumber").bind fun _ block? _ blockRun => ?_
  have hasStatus := isSome_of_receiptNumber statusRun
  have hasBlock := isSome_of_receiptNumber blockRun
  refine (Weighs.part (fun entries => .items checkEntry_weighs entries) document "logs").bind
    fun _ _ _ logsRun => ?_
  cases status? with
  | none =>
    have verdict : presenceVerdict document = .stray := by simp [presenceVerdict, ← hasStatus]
    rw [verdict]
    exact .require_fault _ _
  | some status =>
  cases block? with
  | none =>
    have verdict : presenceVerdict document = .stray := by simp [presenceVerdict, ← hasBlock]
    rw [verdict]
    exact .require_ok (.require_fault _ _)
  | some block =>
  cases found : document.get? "logs" with
  | none =>
    have verdict : presenceVerdict document = .stray := by simp [presenceVerdict, found]
    obtain ⟨fault, missing⟩ := field_of_missing found
    rw [verdict, missing]
    exact .require_ok (.require_ok (.require_fault _ _))
  | some logs =>
    have verdict : presenceVerdict document = .read := by
      simp [presenceVerdict, ← hasStatus, ← hasBlock, found]
    rw [checkPart, found] at logsRun
    obtain ⟨entries, isItems, -⟩ := Runs.require_bind_ok_inv logsRun
    rw [verdict, field_of_get? found]
    refine .require_ok (.require_ok (.require_ok ?_))
    rw [isItems]
    exact .require_ok (.pure _)

end Contract.Remote

end Provisioning
