import Provisioning.Proofs.Contract.Verdict

/-!
# Transactions that fail by name

Whatever a node answers, a transaction is confirmed or fails; what matters is whether the
failure names the transaction. That is decided by the answers alone: a transaction fails
without a name exactly if some answer on the way cannot be used
(`Chain.transact_attributed_iff`).

`Judges amounts pending left action` carries this through an action: `pending` is what is
still to be said of the answers before it, `left` what its value leaves to be said, and all
answers on the way can be used exactly if it comes to that, or to a failure of the chain. It
is kept by composition (`Judges.bind`).
-/

namespace Provisioning

open Contract Session

/-! ## Turns in between -/

namespace Session

/-- A method had so many turns in between. -/
structure Took (method : String) (turns : Nat) (before after : Session) : Prop where
  answers : ∀ turn, after.answerOf method turn = before.answerOf method (turns + turn)
  count : after.callCount method = before.callCount method + turns

variable {method : String} {before middle after : Session}

theorem Spares.took (spares : Spares method before after) : Took method 0 before after :=
  ⟨fun turn => by rw [spares.answers, Nat.zero_add], spares.count⟩

theorem Turns.took (turns : Turns method before after) : Took method 1 before after :=
  ⟨fun turn => by rw [turns.answers, Nat.add_comm], turns.count⟩

theorem Took.trans {early late : Nat} (first : Took method early before middle)
    (rest : Took method late middle after) : Took method (early + late) before after :=
  ⟨fun turn => by rw [rest.answers, first.answers, Nat.add_assoc], by rw [rest.count, first.count, Nat.add_assoc]⟩

/-- All answers that were given in between can be used. -/
def AllUsable (usable : String → NodeAnswer → Prop) (before after : Session) : Prop :=
  ∀ method turn, before.callCount method + turn < after.callCount method →
    usable method (before.answerOf method turn)

variable {usable : String → NodeAnswer → Prop}

theorem allUsable_of_spares (spares : ∀ method, Spares method before after) :
    AllUsable usable before after := by
  intro method turn early
  rw [(spares method).count] at early
  omega

theorem allUsable_trans_iff (first : ∀ method, ∃ turns, Took method turns before middle)
    (rest : ∀ method, ∃ turns, Took method turns middle after) :
    AllUsable usable before after ↔ AllUsable usable before middle ∧ AllUsable usable middle after := by
  constructor
  · intro all
    refine ⟨fun method turn early => all method turn ?_, fun method turn late => ?_⟩
    · obtain ⟨more, took⟩ := rest method
      rw [took.count]
      omega
    · obtain ⟨turns, took⟩ := first method
      rw [took.answers]
      refine all method (turns + turn) ?_
      rw [took.count] at late
      omega
  · rintro ⟨early, late⟩ method turn given
    obtain ⟨turns, took⟩ := first method
    by_cases inside : turn < turns
    · exact early method turn (by rw [took.count]; omega)
    · have shifted := late method (turn - turns) (by rw [took.count]; omega)
      rwa [took.answers, Nat.add_sub_cancel' (Nat.le_of_not_lt inside)] at shifted

end Session

/-! ## Answers that can be used -/

namespace Contract

namespace Remote

/-- The verdict on the latest block: its base fee is the last amount to come, and all amounts
must be there. -/
def latestVerdict (amounts : Bool) : Json → Verdict
  | .null => .refused
  | block => .given (Errand.numberVerdict fun base =>
      if amounts && (natural base).isOk then .read else .stray) (block.field "baseFeePerGas")

/-- The verdict on what a look for a receipt finds. -/
def lookVerdict : Json → Verdict
  | .null | .str "0x" => .read
  | document => receiptVerdict document

/-- The verdict on a result of a method; `amounts` tells whether the amounts of the transaction
but for the base fee can be used. -/
def verdictOn (amounts : Bool) (method : String) (value : Json) : Verdict :=
  match method with
  | "eth_call" | "eth_getCode" => Errand.bytesVerdict value
  | "eth_feeHistory" => historyVerdict value
  | "eth_getBlockByNumber" => latestVerdict amounts value
  | "eth_getTransactionReceipt" => lookVerdict value
  | _ => .read

section

variable {amounts : Bool} {method : String} {value : Json}

theorem verdictOn_block :
    verdictOn amounts "eth_getBlockByNumber" value = latestVerdict amounts value :=
  rfl

theorem verdictOn_look :
    verdictOn amounts "eth_getTransactionReceipt" value = lookVerdict value :=
  rfl

/-- Any result will do where the method is not one whose results are taken apart. -/
theorem verdictOn_plain_iff (plain : verdictOn amounts method value = .read) :
    verdictOn amounts method value ≠ .stray ↔ True := by
  simp [plain]

end

end Remote

/-- The answer can be used: it is an error, or a result on which the verdict is no fault. -/
def NodeAnswer.Usable (amounts : Bool) (method : String) (answer : NodeAnswer) : Prop :=
  ∀ value, answer = .result value → Remote.verdictOn amounts method value ≠ .stray

theorem NodeAnswer.usable_result_iff {amounts : Bool} {method : String} {value : Json} :
    (NodeAnswer.result value).Usable amounts method ↔
      Remote.verdictOn amounts method value ≠ .stray := by
  constructor
  · exact fun usable => usable value rfl
  · rintro fine _ ⟨rfl⟩
    exact fine

end Contract

/-! ## What an action leaves to be said of the answers -/

/-- An outcome leaves something to be said of its value, or is a failure of the chain. -/
def Stands {α : Type} (left : α → Prop) : Except Failure α → Prop
  | .ok value => left value
  | .error failure => failure.isOfChain = true

/-- All answers in between can be used, and what was pending before them holds, exactly if the
outcome stands. -/
structure Judged {α : Type} (amounts : Bool) (pending : Prop) (left : α → Prop)
    (before : Session) (outcome : Except Failure α) (after : Session) : Prop where
  took : ∀ method, ∃ turns, Took method turns before after
  stands : pending ∧ AllUsable (NodeAnswer.Usable amounts) before after ↔ Stands left outcome

/-- Every run of the action is judged. -/
def Judges {α : Type} (amounts : Bool) (pending : Prop) (left : α → Prop) (action : Action α) :
    Prop :=
  ∀ ⦃before outcome after⦄, Runs action before outcome after →
    Judged amounts pending left before outcome after

section Judging

variable {α β : Type} {amounts : Bool} {pending : Prop} {left : α → Prop} {leaves : β → Prop}
variable {before middle after : Session}

/-- What a first part leaves is pending for the rest. -/
theorem Judged.trans {value : α} {outcome : Except Failure β}
    (first : Judged amounts pending left before (.ok value) middle)
    (rest : Judged amounts (left value) leaves middle outcome after) :
    Judged amounts pending leaves before outcome after where
  took := fun method => by
    obtain ⟨early, took⟩ := first.took method
    obtain ⟨late, more⟩ := rest.took method
    exact ⟨_, took.trans more⟩
  stands := by
    have stands : pending ∧ _ ↔ left value := first.stands
    rw [allUsable_trans_iff first.took rest.took, ← and_assoc, stands, rest.stands]

/-- A failure of a first part is one of the whole. -/
theorem Judged.error {failure : Failure}
    (first : Judged amounts pending left before (.error failure) after) :
    Judged amounts pending leaves before (.error failure : Except Failure β) after :=
  ⟨first.took, first.stands⟩

/-- More of the session may happen behind an action, as long as nothing is asked. -/
theorem Judged.later {outcome : Except Failure α} {after' : Session}
    (judged : Judged amounts pending left before outcome after)
    (spared : ∀ method, Spares method after after') :
    Judged amounts pending left before outcome after' where
  took := fun method => by
    obtain ⟨turns, took⟩ := judged.took method
    exact ⟨_, took.trans (spared method).took⟩
  stands := by
    rw [allUsable_trans_iff judged.took fun method => ⟨0, (spared method).took⟩,
      and_iff_left (allUsable_of_spares spared)]
    exact judged.stands

namespace Judges

theorem bind {action : Action α} {next : α → Action β} (first : Judges amounts pending left action)
    (rest : ∀ value, Judges amounts (left value) leaves (next value)) :
    Judges amounts pending leaves (action >>= next) := by
  intro before outcome after run
  rcases run.bind_inv with ⟨value, middle, firstRun, restRun⟩ | ⟨failure, firstRun, rfl⟩
  · exact (first firstRun).trans (rest value restRun)
  · exact (first firstRun).error

theorem of_iff {pending' : Prop} {action : Action α} (same : pending ↔ pending')
    (judges : Judges amounts pending' left action) : Judges amounts pending left action := by
  intro before outcome after run
  have judged := judges run
  exact ⟨judged.took, by rw [same]; exact judged.stands⟩

/-- Nothing is asked, and the outcome stands exactly if what is pending holds. -/
theorem of_spares {action : Action α}
    (spares : ∀ ⦃before outcome after⦄, Runs action before outcome after →
      (∀ method, Spares method before after) ∧ (pending ↔ Stands left outcome)) :
    Judges amounts pending left action := by
  intro before outcome after run
  obtain ⟨spared, stands⟩ := spares run
  refine ⟨fun method => ⟨0, (spared method).took⟩, ?_⟩
  rw [← stands]
  exact and_iff_left (allUsable_of_spares spared)

theorem pure {value : α} (same : pending ↔ left value) :
    Judges amounts pending left (pure value) := by
  refine of_spares fun before outcome after run => ?_
  obtain ⟨rfl, rfl⟩ := run.pure_inv
  exact ⟨fun method => .refl method _, same⟩

theorem throw (failure : Failure) :
    Judges amounts (failure.isOfChain = true) left (throw failure : Action α) := by
  refine of_spares fun before outcome after run => ?_
  obtain ⟨rfl, rfl⟩ := run.throw_inv
  exact ⟨fun method => .refl method _, Iff.rfl⟩

theorem fail {errand : Errand} (reason : String) (cause : NodeFault) :
    Judges amounts True left (errand.fail reason cause : Action α) :=
  (throw (errand.failure reason cause)).of_iff (by simp [Errand.failure, Failure.isOfChain])

/-- What comes behind a failure does not matter. -/
theorem fail_bind {errand : Errand} (reason : String) (cause : NodeFault) (next : α → Action β) :
    Judges amounts True leaves (errand.fail reason cause >>= next) :=
  fun _ _ _ run => fail reason cause run

theorem get : Judges amounts pending (fun _ => pending) (MonadState.get : Action Session) := by
  refine of_spares fun before outcome after run => ?_
  obtain ⟨rfl, rfl⟩ := Runs.get_inv run
  exact ⟨fun method => .refl method _, Iff.rfl⟩

theorem note (level : Level) (source : Source) (text : String) :
    Judges amounts pending (fun _ => pending) (Session.note level source text) := by
  refine of_spares fun before outcome after run => ?_
  have spares (method : String) : Spares method before after := Remote.note_spares run
  obtain ⟨rfl, -⟩ := Runs.modify_inv run
  exact ⟨spares, Iff.rfl⟩

theorem advance (seconds : Binary64) :
    Judges amounts pending (fun _ => pending) (Session.advance seconds) := by
  refine of_spares fun before outcome after run => ?_
  have spares (method : String) : Spares method before after := Remote.advance_spares run
  obtain ⟨rfl, -⟩ := Runs.modify_inv run
  exact ⟨spares, Iff.rfl⟩

/-- What must be there is no fault, and what is done with it is judged. -/
theorem require {value : Except Fault α} {next : α → Action β} {pending : α → Prop}
    (rest : ∀ a, value = .ok a → Judges amounts (pending a) leaves (next a)) :
    Judges amounts (∃ a, value = .ok a ∧ pending a) leaves (Session.require value >>= next) := by
  cases value with
  | ok a => exact (rest a rfl).of_iff (by simp)
  | error fault => exact (throw (.fault fault)).of_iff (by simp [Failure.isOfChain])

/-- What is only read stands exactly if the verdict on it is no fault. -/
theorem of_weighs {verdict : Verdict} {action : Action α} (weighs : Weighs verdict action) :
    Judges amounts (verdict ≠ .stray) (fun _ => True) action := by
  refine of_spares fun before outcome after run => ?_
  obtain ⟨rfl, rfl⟩ := weighs run
  refine ⟨fun method => .refl method _, ?_⟩
  cases outcome with
  | ok value => simp [Verdict.of, Stands]
  | error failure =>
    cases ofChain : failure.isOfChain <;> simp [Verdict.of, Stands, ofChain]

end Judges

end Judging

/-! ## Asking -/

namespace Errand

variable {errand : Errand} {amounts : Bool} {method : String}

theorem answerTo_judges (params : Json) : Judges amounts True
    (NodeAnswer.Usable amounts method) (answerTo method params) := by
  intro before outcome after run
  obtain ⟨rfl, turns, others⟩ := answerTo_inv run
  have took (other : String) : ∃ turns, Took other turns before after := by
    by_cases same : other = method
    · subst same
      exact ⟨1, turns.took⟩
    · exact ⟨0, (others other same).took⟩
  refine ⟨took, ?_⟩
  rw [true_and]
  constructor
  · exact fun all => all method 0 (by rw [turns.count]; omega)
  · intro usable other turn given
    by_cases same : other = method
    · subst same
      rw [turns.count] at given
      obtain rfl : turn = 0 := by omega
      exact usable
    · rw [(others other same).count] at given
      omega

theorem accept_judges (explain : Json → String × NodeFault) (answer : NodeAnswer) :
    Judges amounts (answer.Usable amounts method)
      (fun value => Remote.verdictOn amounts method value ≠ .stray)
      (errand.accept explain answer) := by
  cases answer with
  | result value => exact .pure NodeAnswer.usable_result_iff
  | error error => exact (Judges.fail _ _).of_iff (by simp [NodeAnswer.Usable])
  | lost kind text => exact (Judges.fail _ _).of_iff (by simp [NodeAnswer.Usable])

theorem ask_judges (params : List Json) : Judges amounts True
    (fun value => Remote.verdictOn amounts method value ≠ .stray) (errand.ask method params) :=
  (answerTo_judges _).bind fun answer => accept_judges _ answer

theorem askContract_judges (params : List Json) : Judges amounts True
    (fun value => Remote.verdictOn amounts method value ≠ .stray)
    (errand.askContract method params) :=
  (answerTo_judges _).bind fun answer => accept_judges _ answer

/-- A number is read, or the failure is the chain's. -/
theorem number_judges (value : Json) :
    Judges amounts True (fun _ => True) (errand.number value) := by
  refine .of_spares fun before outcome after run => ?_
  obtain ⟨rfl, read⟩ := number_inv run
  refine ⟨fun method => .refl method _, ?_⟩
  split at read
  · rw [read]
    exact Iff.rfl
  · obtain ⟨reason, cause, same⟩ := read
    rw [same]
    exact iff_of_true trivial rfl

theorem sized_judges (size : Nat) (value : Json) :
    Judges amounts True (fun _ => True) (errand.sized size value) := by
  refine .of_spares fun before outcome after run => ?_
  obtain ⟨rfl, read⟩ := sized_inv run
  refine ⟨fun method => .refl method _, ?_⟩
  split at read
  · rw [read]
    exact Iff.rfl
  · obtain ⟨reason, cause, same⟩ := read
    rw [same]
    exact iff_of_true trivial rfl

theorem bytes_judges (value : Json) :
    Judges amounts (bytesVerdict value ≠ .stray) (fun _ => True) (errand.bytes value) :=
  .of_weighs (bytes_weighs value)

theorem askNumber_judges (plain : ∀ value, Remote.verdictOn amounts method value = .read)
    (params : List Json) :
    Judges amounts True (fun _ => True) (errand.askNumber method params) :=
  (ask_judges params).bind fun value =>
    (number_judges value).of_iff (Remote.verdictOn_plain_iff (plain value))

theorem chainNumber_judges : Judges amounts True (fun _ => True) errand.chainNumber :=
  askNumber_judges (fun _ => rfl) []

theorem call_judges (request : Json) :
    Judges amounts True (fun _ => True) (errand.call request) :=
  chainNumber_judges.bind fun _ => (askContract_judges _).bind fun value => bytes_judges value

theorem askHash_judges (params : List Json) :
    Judges amounts True (fun _ => True) (errand.askHash submission params) :=
  (ask_judges params).bind fun value =>
    (sized_judges 32 value).of_iff (Remote.verdictOn_plain_iff rfl)

end Errand

namespace Contract.Remote

variable {errand : Errand} {amounts : Bool}

/-! ## Trials -/

theorem results_judges (function : Function) (target : String) (request : Json) :
    Judges amounts True (fun _ => True) (results errand function target request) := by
  refine (Errand.call_judges request).bind fun data => ?_
  split
  · exact .pure Iff.rfl
  · have last : Judges amounts True (fun _ => True)
        (errand.fail (function.undecodableText data) .badOutput : Action Arg) := .fail _ _
    split
    · refine (Errand.ask_judges _).bind fun answer => (Errand.bytes_judges answer).bind fun code => ?_
      split
      · exact (Judges.fail _ _).bind fun _ => last
      · exact last
    · exact last

theorem rehearse_judges (contract function : String) (link : Node) (order : Order) :
    Judges amounts True (fun _ => True) (rehearse contract function link order) := by
  refine Judges.bind ?_ fun _ => .pure Iff.rfl
  rw [invoke]
  split
  · exact .fail _ _
  · exact results_judges _ _ _

/-! ## Amounts -/

theorem estimatedGas_judges (link : Node) (order : Order) (nonce : Json) :
    Judges amounts True (fun _ => True) (estimatedGas errand link order nonce) := by
  have estimate : Judges amounts True (fun _ => True)
      (do errand.number (← errand.askContract "eth_estimateGas"
        [order.request link (some nonce), latest])) :=
    (Errand.askContract_judges _).bind fun value =>
      (Errand.number_judges value).of_iff (verdictOn_plain_iff rfl)
  refine Errand.chainNumber_judges.bind fun number => ?_
  split
  · exact (Judges.fail _ _).bind fun _ => estimate
  · exact estimate

theorem priorityFee_judges :
    Judges amounts True (fun _ => True) (priorityFee errand) := by
  have proposed (answer : NodeAnswer) :
      Judges amounts (answer.Usable amounts "eth_maxPriorityFeePerGas") (fun _ => True)
        (do errand.number (← errand.accept Errand.refusal answer)) :=
    (Errand.accept_judges _ answer).bind fun value =>
      (Errand.number_judges value).of_iff (verdictOn_plain_iff rfl)
  refine (Errand.answerTo_judges _).bind fun answer => ?_
  split
  · have lately (params : List Json) : Judges amounts True (fun _ => True) (do
        let history ← errand.ask "eth_feeHistory" params
        return Json.int (meanFee (← rewards errand history))) := by
      refine (Errand.ask_judges params).bind fun history => Judges.bind ?_ fun _ => .pure Iff.rfl
      exact .of_weighs (rewards_weighs history)
    exact (lately _).of_iff (by simp [NodeAnswer.Usable])
  · exact proposed _

theorem baseFee_judges : Judges amounts True
    (fun base => (amounts && (natural base).isOk) = true) (baseFee errand) := by
  have number (value : Json) : Judges amounts
      (Errand.numberVerdict (fun base =>
        if amounts && (natural base).isOk then .read else .stray) value ≠ .stray)
      (fun base => (amounts && (natural base).isOk) = true) (errand.number value) := by
    refine .of_spares fun before outcome after run => ?_
    obtain ⟨rfl, read⟩ := Errand.number_inv run
    refine ⟨fun method => .refl method _, ?_⟩
    split at read
    · next told =>
      rw [read, Errand.numberVerdict, told]
      simp [Stands]
    · next garbled =>
      obtain ⟨reason, cause, same⟩ := read
      rw [same, Errand.numberVerdict, garbled]
      exact iff_of_true (by simp) rfl
  refine (Errand.ask_judges _).bind fun block => ?_
  split
  · exact (Judges.fail _ _).of_iff (by simp [verdictOn_block, latestVerdict])
  · next there =>
    refine Judges.of_iff ?_ (.require fun fee _ => number fee)
    simp only [verdictOn_block, latestVerdict]
    exact Verdict.given_ne_stray_iff

/-- What is signed needs all amounts. -/
theorem signed_judges (link : Node) (order : Order) (nonce gas priority base : Json) :
    Judges amounts
      (((natural nonce).isOk && (natural gas).isOk && (natural priority).isOk &&
        decide (0 ≤ order.value) && (natural base).isOk) = true)
      (fun _ => True) (signed link order nonce gas priority base) := by
  have isOk_iff {amount : Json} : (natural amount).isOk = true ↔ ∃ n, natural amount = .ok n := by
    cases natural amount <;> simp [Except.isOk, Except.toBool]
  have value_iff : 0 ≤ order.value ↔ ∃ n, natural (.int order.value) = .ok n := by
    rw [← isOk_iff, natural]
    split <;> simp_all [Except.isOk, Except.toBool]
  refine Judges.of_iff ?_ (.require fun _ _ => .require fun _ _ => .require fun _ _ =>
    .require fun _ _ => .require fun _ _ => .pure Iff.rfl)
  simp only [Bool.and_eq_true, decide_eq_true_eq, isOk_iff, value_iff, exists_and_right, and_true]
  constructor
  · rintro ⟨⟨⟨⟨nonce, gas⟩, priority⟩, value⟩, base⟩
    exact ⟨priority, base, nonce, gas, value⟩
  · rintro ⟨priority, base, nonce, gas, value⟩
    exact ⟨⟨⟨⟨nonce, gas⟩, priority⟩, value⟩, base⟩

end Contract.Remote

/-- The answer gives a number that can be an amount. -/
def Contract.NodeAnswer.isAmount : NodeAnswer → Bool
  | .result value => (Errand.numbered? value).any fun number => (Remote.natural number).isOk
  | .error _ | .lost .. => false

namespace Contract.Remote

variable {errand : Errand} {before after : Session}

/-- What is offered above the base fee can be an amount; the mean of a history always can. -/
def offersAmount : NodeAnswer → Bool
  | .error _ => true
  | answer => answer.isAmount

/-- Whether the amounts of a transaction but for the base fee can be used. -/
def amounts (session : Session) (value : Int) (gasLimit : Option Int) : Bool :=
  (session.answerOf "eth_getTransactionCount" 0).isAmount &&
  (match gasLimit.filter (· ≠ 0) with
    | some limit => (natural (.int limit)).isOk
    | none => (session.answerOf "eth_estimateGas" 0).isAmount) &&
  offersAmount (session.answerOf "eth_maxPriorityFeePerGas" 0) && decide (0 ≤ value)

theorem isAmount_of_accepted {explain : Json → String × NodeFault} {answer : NodeAnswer}
    {number : Json} (run : Runs (do errand.number (← errand.accept explain answer)) before
      (.ok number) after) : answer.isAmount = (natural number).isOk := by
  obtain ⟨value, middle, acceptRun, numberRun⟩ := Runs.bind_ok_inv run
  obtain ⟨rfl, -⟩ := Errand.accept_ok acceptRun
  obtain ⟨-, read⟩ := Errand.number_inv numberRun
  split at read
  · next told =>
    obtain rfl := Except.ok.inj read
    simp [NodeAnswer.isAmount, told]
  · obtain ⟨_, _, isError⟩ := read
    cases isError

theorem isAmount_of_asked {method : String} {params : List Json} {number : Json}
    (run : Runs (errand.askNumber method params) before (.ok number) after) :
    (before.answerOf method 0).isAmount = (natural number).isOk := by
  obtain ⟨value, middle, askRun, numberRun⟩ := Runs.bind_ok_inv run
  obtain ⟨answer, asked, answerRun, acceptRun⟩ := Runs.bind_ok_inv askRun
  rw [← Except.ok.inj (Errand.answerTo_inv answerRun).1]
  exact isAmount_of_accepted (acceptRun.bind numberRun)

theorem isAmount_of_estimated {link : Node} {order : Order} {nonce gas : Json}
    (run : Runs (estimatedGas errand link order nonce) before (.ok gas) after) :
    (before.answerOf "eth_estimateGas" 0).isAmount = (natural gas).isOk := by
  obtain ⟨chain, named, chainRun, run⟩ := Runs.bind_ok_inv run
  have spared := (Errand.chainNumber_asks chainRun).spares "eth_estimateGas" (by simp)
  split at run
  · exact absurd run Runs.not_throw_bind_ok
  · obtain ⟨value, middle, askRun, numberRun⟩ := Runs.bind_ok_inv run
    obtain ⟨answer, asked, answerRun, acceptRun⟩ := Runs.bind_ok_inv askRun
    rw [← spared.answers, ← Except.ok.inj (Errand.answerTo_inv answerRun).1]
    exact isAmount_of_accepted (acceptRun.bind numberRun)

theorem offersAmount_of_priority {priority : Json}
    (run : Runs (priorityFee errand) before (.ok priority) after) :
    offersAmount (before.answerOf "eth_maxPriorityFeePerGas" 0) = (natural priority).isOk := by
  obtain ⟨answer, middle, answerRun, run⟩ := Runs.bind_ok_inv run
  rw [← Except.ok.inj (Errand.answerTo_inv answerRun).1]
  cases answer with
  | error error =>
    obtain ⟨history, late, -, run⟩ := Runs.bind_ok_inv run
    obtain ⟨fees, last, -, run⟩ := Runs.bind_ok_inv run
    obtain ⟨rfl, -⟩ := run.pure_ok_inv
    have isNatural : natural (.int (meanFee fees)) = .ok (meanFee fees) := by simp [natural]
    rw [isNatural]
    rfl
  | result | lost => exact isAmount_of_accepted run

/-- The fees are asked for last, and what is signed with them needs all amounts. -/
theorem priced_judged {link : Node} {order : Order} {nonce gas : Json}
    {outcome : Except Failure Bytes}
    (run : Runs (priced errand link order nonce gas) before outcome after) :
    Judged ((natural nonce).isOk && (natural gas).isOk &&
        offersAmount (before.answerOf "eth_maxPriorityFeePerGas" 0) && decide (0 ≤ order.value))
      True (fun _ => True) before outcome after := by
  rcases run.bind_inv with ⟨priority, offered, priorityRun, run⟩ | ⟨failure, priorityRun, rfl⟩
  · rw [offersAmount_of_priority priorityRun]
    refine (priorityFee_judges priorityRun).trans ?_
    exact baseFee_judges.bind (fun base => signed_judges link order nonce gas priority base) run
  · exact (priorityFee_judges priorityRun).error

theorem prepare_judged {link : Node} {order : Order} {gasLimit : Option Int}
    {outcome : Except Failure Bytes}
    (run : Runs (prepare errand link order gasLimit) before outcome after) :
    Judged (amounts before order.value gasLimit) True (fun _ => True) before outcome after := by
  rw [prepare_eq] at run
  have plain (value : Json) (amounts : Bool) :
      verdictOn amounts "eth_getTransactionCount" value = .read := rfl
  rcases run.bind_inv with ⟨nonce, counted, nonceRun, run⟩ | ⟨failure, nonceRun, rfl⟩
  · have spares (method : String) (other : method ≠ "eth_getTransactionCount") :
        Spares method before counted :=
      (Errand.askNumber_asks _ _ nonceRun).spares method (by simpa using other)
    refine (Errand.askNumber_judges (fun value => plain value _) _ nonceRun).trans ?_
    rw [amounts, isAmount_of_asked nonceRun]
    cases limited : gasLimit.filter (· ≠ 0) with
    | some limit =>
      simp only [limited] at run ⊢
      have judged := priced_judged run
      rwa [(spares _ (by decide)).answers] at judged
    | none =>
      simp only [limited] at run ⊢
      rw [← (spares "eth_estimateGas" (by decide)).answers]
      rcases run.bind_inv with ⟨gas, estimated, gasRun, run⟩ | ⟨failure, gasRun, rfl⟩
      · have late : Spares "eth_maxPriorityFeePerGas" counted estimated :=
          (estimatedGas_asks _ _ _ gasRun).spares _ (by decide)
        have judged := priced_judged run
        rw [late.answers, (spares _ (by decide)).answers, ← isAmount_of_estimated gasRun] at judged
        exact (estimatedGas_judges link order nonce gasRun).trans judged
      · exact (estimatedGas_judges link order nonce gasRun).error
  · exact (Errand.askNumber_judges (fun value => plain value _) _ nonceRun).error

/-! ## Receipts -/

variable {amounts : Bool}

/-- A look leaves the document that it finds. -/
theorem receipt?_judges (hash : Bytes) : Judges amounts True
    (fun document? => ∀ document, document? = some document → receiptVerdict document ≠ .stray)
    (receipt? errand hash) := by
  have refused (error : Json) : Judges amounts
      ((NodeAnswer.error error).Usable amounts receiptLook)
      (fun document? => ∀ document, document? = some document → receiptVerdict document ≠ .stray)
      (do return some (← errand.accept Errand.refusal (.error error))) :=
    (Judges.fail_bind _ _ _).of_iff (by simp [NodeAnswer.Usable])
  refine (Errand.answerTo_judges _).bind fun answer => ?_
  split
  · split
    · split
      · exact .pure (by simp [NodeAnswer.Usable])
      · exact refused _
    · exact refused _
  · refine (Errand.accept_judges _ _).bind fun value => ?_
    split
    · exact .pure (by simp [verdictOn_look, lookVerdict])
    · exact .pure (by simp [verdictOn_look, lookVerdict])
    · exact .pure (by simp [verdictOn_look, lookVerdict])

theorem awaitReceipt_judges (hash : Bytes) (deadline : Binary64) (looks : Nat) :
    Judges amounts True (fun document => receiptVerdict document ≠ .stray)
      (awaitReceipt errand hash deadline looks) := by
  induction looks with
  | zero => exact .fail _ _
  | succ looks ih =>
    refine (receipt?_judges hash).bind fun document? => ?_
    split
    · exact .pure (by simp)
    · have waits : Judges amounts True (fun document => receiptVerdict document ≠ .stray) (do
          advance lookInterval
          if deadline.lt (← get).clock.time then
            errand.fail "receipt wait timed out" .receiptTimeout
          else awaitReceipt errand hash deadline looks) := by
        refine (Judges.advance _).bind fun _ => Judges.get.bind fun session => ?_
        split
        · exact .fail _ _
        · exact ih
      exact waits.of_iff (by simp)

theorem confirm_judges (hash : Bytes) (timeout : Binary64) :
    Judges amounts True (fun _ => True) (confirm errand hash timeout) := by
  refine (Judges.note _ _ _).bind fun _ => Judges.get.bind fun session => ?_
  refine (awaitReceipt_judges hash _ _).bind fun document => ?_
  refine (Judges.of_weighs (readReceipt_weighs _ document)).bind fun receipt => ?_
  have ends : Judges amounts True (fun _ => True) (do
      note .info .node
        s!"Confirmed {errand.contract}.{errand.function} in block {blockText receipt.block}"
      return receipt) := (Judges.note _ _ _).bind fun _ => .pure Iff.rfl
  split
  · intro before outcome after run
    exact (Judges.throw _).of_iff (by simp [Failure.isOfChain]) run
  · exact ends

/-! ## Transactions -/

variable {link : Node} {contract function : String} {args : List Arg} {value : Int}
variable {gasLimit : Option Int} {outcome : Except Failure Receipt}

theorem transact_judged {registry : Registry} {entry : Function} {data : Bytes}
    (known : functionNamed contract function = .ok (registry, entry))
    (fits : entry.callData args = .ok data)
    (run : Runs (transact link contract function args value gasLimit) before outcome after) :
    Judged (Remote.amounts before value gasLimit) True (fun _ => True) before outcome after := by
  rw [transact, known] at run
  have run := Runs.require_ok_bind run
  dsimp only at run
  rw [fits] at run
  have run := Runs.require_ok_bind run
  rcases run.bind_inv with ⟨_, tried, tryRun, run⟩ | ⟨failure, tryRun, rfl⟩
  · have trial := rehearse_asks _ tryRun
    have unasked : Remote.amounts tried value gasLimit = Remote.amounts before value gasLimit := by
      rw [Remote.amounts, Remote.amounts, (trial.spares "eth_getTransactionCount" (by decide)).answers,
        (trial.spares "eth_estimateGas" (by decide)).answers,
        (trial.spares "eth_maxPriorityFeePerGas" (by decide)).answers]
    rw [← unasked]
    refine (rehearse_judges contract function link _ tryRun).trans ?_
    rcases run.bind_inv with ⟨signed, prepared, prepareRun, run⟩ | ⟨failure, prepareRun, rfl⟩
    · refine (prepare_judged prepareRun).trans ?_
      exact (Errand.askHash_judges _).bind (fun hash => confirm_judges hash link.timeout) run
    · exact (prepare_judged prepareRun).error
  · exact (rehearse_judges contract function link _ tryRun).error

/-- The outcome of a transaction is a receipt that confirms it, or a failure of the chain that
names it; both tell this hash. -/
def Attributed (contract function : String) (hash? : Option String) :
    Except Failure Receipt → Prop
  | .ok receipt => receipt.confirmed = true ∧ hash? = some receipt.hash
  | .error (.chainTransaction contract' function' _ hash' _) =>
    contract' = contract ∧ function' = function ∧ hash' = hash?
  | .error _ => False

/-- A transaction that is submitted once names itself in every outcome but a fault. -/
theorem SubmittedOnce.attributed_iff (submitted : SubmittedOnce link contract function args value
    before outcome after) :
    Attributed contract function (namedHash? before after) outcome ↔
      Stands (fun _ => True) outcome := by
  cases outcome with
  | ok receipt =>
    obtain ⟨-, named, success, -⟩ := submitted.received receipt rfl
    exact iff_of_true ⟨by simp [Receipt.confirmed, success], named⟩ trivial
  | error failure =>
    have blames := submitted.failed failure rfl
    cases failure with
    | chainTransaction => exact iff_of_true blames rfl
    | _ => exact iff_of_false id Bool.false_ne_true

end Contract.Remote

namespace Chain

open Contract.Remote

variable {before after : Session} {link : Node} {contract function : String}
variable {args : List Arg} {value : Int} {gasLimit : Option Int}

/-- Behind a transaction through a node, only the confirmation is written down. -/
theorem transact_node_inv {outcome : Except Failure Receipt} (on : before.chain = .node link)
    (run : Runs (Chain.transact contract function args value gasLimit) before outcome after) :
    ∃ sent, Runs (Remote.transact link contract function args value gasLimit) before outcome sent ∧
      ∀ method, Spares method sent after := by
  have sends {outcome : Except Failure Receipt} {after : Session}
      (run : Runs (Chain.send contract function args value gasLimit) before outcome after) :
      Runs (Remote.transact link contract function args value gasLimit) before outcome after := by
    have run := Runs.get_bind run
    simp only [on] at run
    exact run
  rcases Runs.bind_inv run with ⟨receipt, sent, sendRun, run⟩ | ⟨failure, sendRun, rfl⟩
  · obtain ⟨rfl, rfl⟩ := (Runs.record_bind run).pure_inv
    exact ⟨sent, sends sendRun, fun method => ⟨rfl, List.countP_append.trans (Nat.add_zero _)⟩⟩
  · exact ⟨after, sends sendRun, fun method => .refl method after⟩

/-- A transaction through a node names itself unless it ends in a fault. -/
theorem transact_attributed_iff_stands {outcome : Except Failure Receipt}
    (on : before.chain = .node link)
    (run : Runs (Chain.transact contract function args value gasLimit) before outcome after) :
    Attributed contract function (namedHash? before after) outcome ↔
      Stands (fun _ => True) outcome := by
  obtain ⟨sent, run, spared⟩ := transact_node_inv on run
  exact ((transact_submitted_once run).later spared).attributed_iff

/-- A transaction through a node is confirmed, or fails with a failure of the chain that names
the contract, the function and the hash if the node has named one, exactly if every answer on
the way can be used. -/
theorem transact_attributed_iff {registry : Registry} {entry : Function} {data : Bytes}
    {outcome : Except Failure Receipt} (on : before.chain = .node link)
    (known : functionNamed contract function = .ok (registry, entry))
    (fits : entry.callData args = .ok data)
    (run : Runs (Chain.transact contract function args value gasLimit) before outcome after) :
    Attributed contract function (namedHash? before after) outcome ↔
      AllUsable (NodeAnswer.Usable (Remote.amounts before value gasLimit)) before after := by
  rw [transact_attributed_iff_stands on run]
  obtain ⟨sent, run, spared⟩ := transact_node_inv on run
  rw [← ((transact_judged known fits run).later spared).stands, true_and]

/-- The sample arguments fit. -/
theorem sampleArgs_fit : ∃ registry entry data,
    functionNamed "KeyGateway" "add" = .ok (registry, entry) ∧
      entry.callData sampleArgs = .ok data := by
  have fits : (match functionNamed "KeyGateway" "add" with
      | .ok (_, entry) => (entry.callData sampleArgs).isOk
      | .error _ => false) = true := by
    decide +kernel
  split at fits
  · next registry entry known =>
    cases encoded : entry.callData sampleArgs with
    | ok data => exact ⟨registry, entry, data, known, encoded⟩
    | error fault =>
      rw [encoded] at fits
      cases fits
  · cases fits

theorem sampleNode_attributed :
    sampleNodeSession.chain = .node sampleNode ∧
    (∃ registry entry data, functionNamed "KeyGateway" "add" = .ok (registry, entry) ∧
      entry.callData sampleArgs = .ok data) ∧
    ∃ receipt after, Runs (Chain.transact "KeyGateway" "add" sampleArgs 0 (some 100000))
      sampleNodeSession (.ok receipt) after ∧
      Attributed "KeyGateway" "add" (namedHash? sampleNodeSession after) (.ok receipt) ∧
      AllUsable (NodeAnswer.Usable (Remote.amounts sampleNodeSession 0 (some 100000)))
        sampleNodeSession after := by
  obtain ⟨registry, entry, data, known, fits⟩ := sampleArgs_fit
  obtain ⟨outcome, after, run⟩ := Runs.exists_run
    (Chain.transact "KeyGateway" "add" sampleArgs 0 (some 100000)) sampleNodeSession
  have ran : Runs (Chain.transact "KeyGateway" "add" sampleArgs 0 (some 100000)) sampleNodeSession
      sampleNodeRun.1 sampleNodeRun.2 := .run _ _
  have received := sampleNodeRun_received
  rw [← (run.unique ran).1] at received
  cases outcome with
  | ok receipt =>
    have attributed_iff := transact_attributed_iff rfl known fits run
    have attributed := (transact_attributed_iff_stands rfl run).mpr trivial
    exact ⟨rfl, sampleArgs_fit, receipt, after, run, attributed, attributed_iff.mp attributed⟩
  | error failure => cases received

/-! ### A receipt without a status -/

/-- A node that names the hash of a transaction, and then shows a receipt without a status. -/
def carelessNode : Node :=
  { sampleNode with
    script := ("eth_getTransactionReceipt", [.result (.obj [("blockNumber", .str "0x2"),
      ("logs", .arr [])])]) :: sampleNode.script }

def carelessSession : Session :=
  { sampleNodeSession with chain := .node carelessNode }

def carelessRun : Except Failure Receipt × Session :=
  StateT.run (ExceptT.run (Chain.transact "KeyGateway" "add" sampleArgs 0 (some 100000)))
    carelessSession

/-- The node has named the hash, and the transaction ends in a fault that does not tell it. -/
theorem careless_receipt_anonymous :
    Runs (Chain.transact "KeyGateway" "add" sampleArgs 0 (some 100000)) carelessSession
      carelessRun.1 carelessRun.2 ∧
    namedHash? carelessSession carelessRun.2 = some (Hex.marked (List.replicate 32 17)) ∧
    carelessRun.1 = .error (.fault (.absent "status")) ∧
    ¬Attributed "KeyGateway" "add" (namedHash? carelessSession carelessRun.2) carelessRun.1 := by
  have faulted : carelessRun.1 = .error (.fault (.absent "status")) := by
    have matched : (match carelessRun.1 with
        | .error (.fault (.absent "status")) => true
        | _ => false) = true := by
      decide +kernel
    split at matched
    · next same => exact same
    · cases matched
  have named : namedHash? carelessSession carelessRun.2 =
      some (Hex.marked (List.replicate 32 17)) := by
    decide +kernel
  exact ⟨.run _ _, named, faulted, by rw [faulted]; exact id⟩

end Chain

end Provisioning
