import Provisioning.Contract.Call
import Provisioning.Proofs.Contract.Errand

/-!
# Transactions through a node

A transaction asks the node many things before and after it is submitted, and each of
them can fail. None of them is a submission: a transaction is submitted at most once, and
only after its rehearsal went well. What the node answered to the submission decides the
hash that is reported from then on, in the receipt (`Remote.confirm_ok`) and in every
failure (`Remote.confirm_asks`). Main statement: `Chain.transact_submits_once`.
-/

namespace Provisioning

open Contract Session

namespace Contract

/-- The method that submits a signed transaction. -/
def submission : String := "eth_sendRawTransaction"

/-- The method that looks for a receipt. -/
def receiptLook : String := "eth_getTransactionReceipt"

namespace Remote

variable {errand : Errand} {before after : Session}

/-! ## What is asked before a submission -/

/-- What a trial call asks. -/
def callMethods : List String := ["eth_chainId", "eth_call", "eth_getCode"]

theorem results_asks (function : Function) (target : String) (request : Json) :
    errand.Asks callMethods (results errand function target request) := by
  have call : errand.Asks callMethods (errand.call request) :=
    (Errand.call_asks request).mono (by simp [callMethods])
  have code (params : List Json) : errand.Asks callMethods (errand.ask "eth_getCode" params) :=
    (Errand.ask_asks _ params).mono (by simp [callMethods])
  refine call.bind fun data => ?_
  split
  · exact .pure _
  · have last : errand.Asks callMethods
        (errand.fail (function.undecodableText data) .badOutput : Action Arg) := .fail _ _
    split
    · refine (code _).bind fun answer => (Errand.bytes_asks answer).bind fun bytes => ?_
      split
      · exact (Errand.Asks.fail _ _).bind fun _ => last
      · exact last
    · exact last

theorem invoke_asks (function : Function) (args : List Arg) (target : String)
    (request : Json) : errand.Asks callMethods (invoke errand function args target request) := by
  rw [invoke]
  split
  · exact .fail _ _
  · exact results_asks function target request

/-- A trial that goes well was answered with data that the function could have returned. -/
theorem results_ok {function : Function} {target : String} {request : Json} {value : Arg}
    (run : Runs (results errand function target request) before (.ok value) after) :
    ∃ returned data, before.answerOf "eth_call" 0 = .result returned ∧
      Errand.written? returned = some data ∧ function.results data = some value := by
  obtain ⟨data, middle, callRun, run⟩ := Runs.bind_ok_inv run
  obtain ⟨returned, answered, written⟩ := Errand.call_ok callRun
  split at run
  · next value' read =>
    obtain ⟨rfl, -⟩ := run.pure_ok_inv
    exact ⟨returned, data, answered, written, read⟩
  · split at run
    · obtain ⟨answer, later, -, run⟩ := Runs.bind_ok_inv run
      obtain ⟨code, last, -, run⟩ := Runs.bind_ok_inv run
      split at run
      · exact absurd run Runs.not_throw_bind_ok
      · exact absurd run Runs.not_throw_ok
    · exact absurd run Runs.not_throw_ok

/-- What the fees of a transaction ask. -/
def feeMethods : List String :=
  ["eth_maxPriorityFeePerGas", "eth_feeHistory", "eth_getBlockByNumber"]

theorem rewards_asks {methods : List String} (history : Json) :
    errand.Asks methods (rewards errand history) := by
  refine (Errand.Asks.require _).bind fun reward => (Errand.Asks.require _).bind fun blocks => ?_
  refine Errand.Asks.mapM (fun block => (Errand.Asks.require _).bind fun fees => ?_) blocks
  split
  · exact .throw trivial
  · refine (Errand.number_asks _).bind fun fee => ?_
    split
    · exact .pure _
    · exact .throw trivial

theorem priorityFee_asks : errand.Asks feeMethods (priorityFee errand) := by
  have history (params : List Json) :
      errand.Asks feeMethods (errand.ask "eth_feeHistory" params) :=
    (Errand.ask_asks _ params).mono (by simp [feeMethods])
  have proposal : errand.Asks feeMethods (Errand.answerTo "eth_maxPriorityFeePerGas" (.arr [])) :=
    (Errand.answerTo_asks _ _).mono (by simp [feeMethods])
  refine proposal.bind fun answer => ?_
  split
  · exact (history _).bind fun document => (rewards_asks document).bind fun fees => .pure _
  · exact (Errand.accept_asks _ _).bind fun value => Errand.number_asks value

theorem baseFee_asks : errand.Asks feeMethods (baseFee errand) := by
  have latest (params : List Json) :
      errand.Asks feeMethods (errand.ask "eth_getBlockByNumber" params) :=
    (Errand.ask_asks _ params).mono (by simp [feeMethods])
  refine (latest _).bind fun block => ?_
  split
  · exact .fail _ _
  · exact (Errand.Asks.require _).bind fun fee => Errand.number_asks fee

/-- What a transaction asks between its rehearsal and its submission. -/
def preparationMethods : List String :=
  ["eth_getTransactionCount", "eth_chainId", "eth_estimateGas"] ++ feeMethods

theorem estimatedGas_asks (link : Node) (order : Order) (nonce : Json) :
    errand.Asks ["eth_chainId", "eth_estimateGas"] (estimatedGas errand link order nonce) := by
  have chain : errand.Asks ["eth_chainId", "eth_estimateGas"] errand.chainNumber :=
    Errand.chainNumber_asks.mono (by simp)
  have gas (params : List Json) : errand.Asks ["eth_chainId", "eth_estimateGas"]
      (errand.askContract "eth_estimateGas" params) :=
    (Errand.askContract_asks _ params).mono (by simp)
  have estimate : errand.Asks ["eth_chainId", "eth_estimateGas"]
      (do errand.number (← errand.askContract "eth_estimateGas"
        [order.request link (some nonce), latest])) :=
    (gas _).bind fun value => Errand.number_asks value
  refine chain.bind fun number => ?_
  split
  · exact (Errand.Asks.fail _ _).bind fun _ => estimate
  · exact estimate

/-- The transaction that is signed for some amounts, if they are naturals. -/
def signed (link : Node) (order : Order) (nonce gas priority base : Json) : Action Bytes := do
  let priority ← require (natural priority)
  let base ← require (natural base)
  let nonce ← require (natural nonce)
  let gas ← require (natural gas)
  let value ← require (natural (.int order.value))
  let transaction : FeeTransaction :=
    ⟨link.chainId.toNat, nonce, priority, priority + 2 * base, gas,
      link.locate order.registry, value, order.data⟩
  return transaction.signed link.secret

/-- Asks for the fees, and signs. -/
def priced (errand : Errand) (link : Node) (order : Order) (nonce gas : Json) : Action Bytes := do
  let priority ← priorityFee errand
  let base ← baseFee errand
  signed link order nonce gas priority base

theorem prepare_eq (link : Node) (order : Order) (gasLimit : Option Int) :
    prepare errand link order gasLimit = (do
      let nonce ← errand.askNumber "eth_getTransactionCount" [.str link.address, latest]
      match gasLimit.filter (· ≠ 0) with
      | some limit => priced errand link order nonce (.int limit)
      | none => estimatedGas errand link order nonce >>= priced errand link order nonce) := rfl

theorem prepare_asks (link : Node) (order : Order) (gasLimit : Option Int) :
    errand.Asks preparationMethods (prepare errand link order gasLimit) := by
  have within : feeMethods ⊆ preparationMethods := List.subset_append_right _ _
  have count (params : List Json) :
      errand.Asks preparationMethods (errand.askNumber "eth_getTransactionCount" params) :=
    (Errand.askNumber_asks _ params).mono (by simp [preparationMethods])
  have estimate (nonce : Json) :
      errand.Asks preparationMethods (estimatedGas errand link order nonce) :=
    (estimatedGas_asks link order nonce).mono (by simp [preparationMethods])
  have prices (nonce gas : Json) :
      errand.Asks preparationMethods (priced errand link order nonce gas) := by
    refine (priorityFee_asks.mono within).bind fun priority => ?_
    refine (baseFee_asks.mono within).bind fun base => ?_
    refine (Errand.Asks.require _).bind fun _ => (Errand.Asks.require _).bind fun _ => ?_
    refine (Errand.Asks.require _).bind fun _ => (Errand.Asks.require _).bind fun _ => ?_
    exact (Errand.Asks.require _).bind fun _ => .pure _
  rw [prepare_eq]
  refine (count _).bind fun nonce => ?_
  split
  · exact prices nonce _
  · exact (estimate nonce).bind fun gas => prices nonce gas

/-! ## Receipts -/

theorem receipt?_asks (hash : Bytes) : errand.Asks [receiptLook] (receipt? errand hash) := by
  have accepted (answer : NodeAnswer) : errand.Asks [receiptLook]
      (errand.accept Errand.refusal answer) := Errand.accept_asks _ answer
  refine (Errand.answerTo_asks _ _).bind fun answer => ?_
  split
  · split
    · split
      · exact .pure _
      · exact (accepted _).bind fun _ => .pure _
    · exact (accepted _).bind fun _ => .pure _
  · refine (accepted _).bind fun document => ?_
    split
    · exact .pure _
    · exact .pure _
    · exact .pure _

/-- A look ends with the document that the node answers, if it answers one. -/
theorem receipt?_inv {hash : Bytes} {document? : Option Json}
    (run : Runs (receipt? errand hash) before (.ok document?) after) :
    Turns receiptLook before after ∧
      ∀ document, document? = some document →
        before.answerOf receiptLook 0 = .result document := by
  obtain ⟨answer, middle, answerRun, run⟩ := Runs.bind_ok_inv run
  obtain ⟨given, turns, -⟩ := Errand.answerTo_inv answerRun
  have given : before.answerOf receiptLook 0 = answer := (Except.ok.inj given).symm
  have none_yet {session : Session}
      (run : Runs (pure none : Action (Option Json)) session (.ok document?) after) :
      after = session ∧ ∀ document, document? = some document →
        before.answerOf receiptLook 0 = .result document := by
    obtain ⟨rfl, rfl⟩ := run.pure_ok_inv
    exact ⟨rfl, fun document some => nomatch some⟩
  have refused {error : Json} (is : answer = .error error)
      (run : Runs (do return some (← errand.accept Errand.refusal answer)) middle
        (.ok document?) after) : False := by
    obtain ⟨value, last, acceptRun, -⟩ := Runs.bind_ok_inv run
    exact absurd (is.symm.trans (Errand.accept_ok acceptRun).1) (by simp)
  split at run
  · split at run
    · split at run
      · obtain ⟨rfl, document⟩ := none_yet run
        exact ⟨turns, document⟩
      · exact (refused rfl run).elim
    · exact (refused rfl run).elim
  · obtain ⟨value, last, acceptRun, found⟩ := Runs.bind_ok_inv run
    obtain ⟨rfl, rfl⟩ := Errand.accept_ok acceptRun
    split at found
    · obtain ⟨rfl, document⟩ := none_yet found
      exact ⟨turns, document⟩
    · obtain ⟨rfl, document⟩ := none_yet found
      exact ⟨turns, document⟩
    · obtain ⟨rfl, rfl⟩ := found.pure_ok_inv
      refine ⟨turns, fun document is => ?_⟩
      rw [given, Option.some.inj is]

theorem advance_spares {method : String} {seconds : Binary64} {outcome : Except Failure Unit}
    (run : Runs (advance seconds) before outcome after) : Spares method before after := by
  obtain ⟨-, rfl⟩ := Runs.modify_inv run
  exact ⟨rfl, rfl⟩

theorem note_spares {method : String} {level : Level} {source : Source} {text : String}
    {outcome : Except Failure Unit} (run : Runs (note level source text) before outcome after) :
    Spares method before after := by
  obtain ⟨-, rfl⟩ := Runs.modify_inv run
  exact .noted method before level source text

theorem awaitReceipt_asks (hash : Bytes) (deadline : Binary64) (looks : Nat) :
    errand.Asks [receiptLook] (awaitReceipt errand hash deadline looks) := by
  induction looks with
  | zero => exact .fail _ _
  | succ looks ih =>
    refine (receipt?_asks hash).bind fun document? => ?_
    split
    · exact .pure _
    · refine (Errand.Asks.advance _).bind fun _ => Errand.Asks.get.bind fun session => ?_
      split
      · exact .fail _ _
      · exact ih

/-- A receipt that comes is the answer to the last look for it. -/
theorem awaitReceipt_ok {hash : Bytes} {deadline : Binary64} {looks : Nat} {document : Json}
    (run : Runs (awaitReceipt errand hash deadline looks) before (.ok document) after) :
    ∃ turn, before.answerOf receiptLook turn = .result document ∧
      after.callCount receiptLook = before.callCount receiptLook + turn + 1 := by
  induction looks generalizing before with
  | zero => exact absurd run Runs.not_throw_ok
  | succ looks ih =>
    obtain ⟨document?, middle, lookRun, run⟩ := Runs.bind_ok_inv run
    obtain ⟨turns, answered⟩ := receipt?_inv lookRun
    cases document? with
    | some found =>
      obtain ⟨rfl, rfl⟩ := Runs.pure_ok_inv run
      exact ⟨0, answered found rfl, turns.count⟩
    | none =>
      obtain ⟨_, later, waitRun, run⟩ := Runs.bind_ok_inv run
      have run := Runs.get_bind run
      split at run
      · exact absurd run Runs.not_throw_ok
      · obtain ⟨turn, given, count⟩ := ih run
        have waited : Spares receiptLook middle later := advance_spares waitRun
        refine ⟨turn + 1, ?_, ?_⟩
        · rw [← turns.answers turn, ← waited.answers, given]
        · rw [count, waited.count, turns.count]
          omega

theorem checkPart_asks {methods : List String} {check : Json → Action Unit}
    (checks : ∀ part, errand.Asks methods (check part)) (document : Json) (key : String) :
    errand.Asks methods (checkPart document key check) := by
  rw [checkPart]
  split
  · exact checks _
  · exact .pure _

theorem checkEntry_asks {methods : List String} (entry : Json) :
    errand.Asks methods (checkEntry errand entry) := by
  refine (checkPart_asks (fun topics => ?_) entry "topics").bind fun _ => ?_
  · refine (Errand.Asks.require _).bind fun items => ?_
    exact .forM (fun topic => (Errand.sized_asks 32 topic).discard) items
  · exact checkPart_asks (fun data => (Errand.bytes_asks data).discard) entry "data"

theorem receiptNumber_asks {methods : List String} (document : Json) (key : String) :
    errand.Asks methods (receiptNumber errand document key) := by
  rw [receiptNumber]
  split
  · exact (Errand.number_asks _).bind fun _ => .pure _
  · exact .pure _

theorem readReceipt_asks {methods : List String} (hash : String) (document : Json) :
    errand.Asks methods (readReceipt errand hash document) := by
  refine (receiptNumber_asks document "status").bind fun status? => ?_
  refine (receiptNumber_asks document "blockNumber").bind fun block? => ?_
  refine (checkPart_asks (fun entries => ?_) document "logs").bind fun _ => ?_
  · exact (Errand.Asks.require _).bind fun items => .forM checkEntry_asks items
  · refine (Errand.Asks.require _).bind fun status => (Errand.Asks.require _).bind fun block => ?_
    exact (Errand.Asks.require _).bind fun logs => (Errand.Asks.require _).bind fun _ => .pure _

/-- What a value of a document is worth: a text counts as the number that it writes. -/
def worth? : Json → Option Int
  | .str text => (Quantity.ofText? text).map Int.ofNat
  | other => other.integer?

/-- The status that the document of a receipt gives. -/
def statusOf? (document : Json) : Option Int :=
  (document.get? "status").bind worth?

theorem number_ok {value number : Json}
    (run : Runs (errand.number value) before (.ok number) after) :
    number.integer? = worth? value := by
  cases value with
  | str text =>
    rw [Errand.number] at run
    split at run
    · next n read =>
      obtain ⟨rfl, -⟩ := run.pure_ok_inv
      rw [worth?, read]
      rfl
    · exact absurd run Runs.not_throw_ok
  | null | bool | int | float | arr | obj =>
    obtain ⟨rfl, -⟩ := Runs.pure_ok_inv run
    rfl

theorem receiptNumber_ok {document : Json} {key : String} {number? : Option Json}
    (run : Runs (receiptNumber errand document key) before (.ok number?) after) :
    number?.bind Json.integer? = (document.get? key).bind worth? := by
  rw [receiptNumber] at run
  split at run
  · next value found =>
    obtain ⟨number, middle, numberRun, run⟩ := Runs.bind_ok_inv run
    obtain ⟨rfl, -⟩ := run.pure_ok_inv
    rw [found]
    exact number_ok numberRun
  · next missing =>
    obtain ⟨rfl, -⟩ := run.pure_ok_inv
    rw [missing]
    rfl

theorem present_ok {α : Type} {key : String} {value? : Option α} {value : α}
    (there : present key value? = .ok value) : value? = some value := by
  cases value? with
  | some value' => rw [Except.ok.inj there]
  | none => cases there

/-- A receipt has the hash that it was asked for with, and the status of its document. -/
theorem readReceipt_ok {hash : String} {document : Json} {receipt : Receipt}
    (run : Runs (readReceipt errand hash document) before (.ok receipt) after) :
    receipt.hash = hash ∧ receipt.status = (statusOf? document).getD 0 := by
  obtain ⟨status?, numbered, statusRun, run⟩ := Runs.bind_ok_inv run
  obtain ⟨block?, counted, -, run⟩ := Runs.bind_ok_inv run
  obtain ⟨_, checked, -, run⟩ := Runs.bind_ok_inv run
  obtain ⟨status, there, run⟩ := Runs.require_bind_ok_inv run
  obtain ⟨block, -, run⟩ := Runs.require_bind_ok_inv run
  obtain ⟨logs, -, run⟩ := Runs.require_bind_ok_inv run
  obtain ⟨entries, -, run⟩ := Runs.require_bind_ok_inv run
  obtain ⟨rfl, -⟩ := run.pure_ok_inv
  have read : status.integer? = statusOf? document := by
    rw [statusOf?, ← receiptNumber_ok statusRun, present_ok there]
    rfl
  exact ⟨rfl, congrArg (Option.getD · 0) read⟩

/-! ## What the node named -/

/-- From the moment the node has named the hash, every failure carries it. -/
theorem confirm_asks (errand : Errand) (hash : Bytes) (timeout : Binary64) :
    Errand.Asks { errand with hash := some (Hex.marked hash) } [receiptLook]
      (confirm errand hash timeout) := by
  refine (Errand.Asks.note _ _ _).bind fun _ => Errand.Asks.get.bind fun session => ?_
  refine (awaitReceipt_asks hash _ _).bind fun document => ?_
  refine (readReceipt_asks _ document).bind fun receipt => ?_
  have ends : Errand.Asks { errand with hash := some (Hex.marked hash) } [receiptLook] (do
      note .info .node
        s!"Confirmed {errand.contract}.{errand.function} in block {blockText receipt.block}"
      return receipt) := (Errand.Asks.note _ _ _).bind fun _ => .pure receipt
  split
  · have blames : (Failure.chainTransaction errand.contract errand.function "reverted"
        (some (Hex.marked hash)) none).Blames errand.contract errand.function
        (some (Hex.marked hash)) := ⟨rfl, rfl, rfl⟩
    exact (Errand.Asks.throw blames).bind fun _ => ends
  · exact ends

/-- A transaction that is confirmed has the hash that the node named, and the last document
that the node answered gives it the status of a success. -/
theorem confirm_ok {hash : Bytes} {timeout : Binary64} {receipt : Receipt}
    (run : Runs (confirm errand hash timeout) before (.ok receipt) after) :
    receipt.hash = Hex.marked hash ∧ receipt.status = 1 ∧
      ∃ turn document, before.answerOf receiptLook turn = .result document ∧
        after.callCount receiptLook = before.callCount receiptLook + turn + 1 ∧
        statusOf? document = some 1 := by
  obtain ⟨_, opened, openRun, run⟩ := Runs.bind_ok_inv run
  have run := Runs.get_bind run
  obtain ⟨document, found, awaitRun, run⟩ := Runs.bind_ok_inv run
  obtain ⟨turn, answered, count⟩ := awaitReceipt_ok awaitRun
  obtain ⟨receipt', checked, readRun, run⟩ := Runs.bind_ok_inv run
  obtain ⟨named, status⟩ := readReceipt_ok readRun
  have first : Spares receiptLook before opened := note_spares openRun
  have reads : Errand.Asked _ [] found _ checked := readReceipt_asks _ document readRun
  have read : Spares receiptLook found checked := reads.spares receiptLook List.not_mem_nil
  split at run
  · exact absurd run Runs.not_throw_bind_ok
  · next confirmed =>
    obtain ⟨_, closed, closeRun, run⟩ := Runs.bind_ok_inv run
    obtain ⟨rfl, rfl⟩ := run.pure_ok_inv
    have last : Spares receiptLook checked after := note_spares closeRun
    have success : receipt'.status = 1 := by simpa [Receipt.confirmed] using confirmed
    refine ⟨named, success, turn, document, ?_, ?_, ?_⟩
    · rw [← first.answers, answered]
    · rw [last.count, read.count, count, first.count]
    · rw [success] at status
      cases given : statusOf? document with
      | none =>
        rw [given] at status
        cases status
      | some value =>
        rw [given] at status
        exact congrArg some status.symm

/-! ## Transactions -/

/-- The hash that the node named for what was submitted between two sessions, as reports
show it. -/
def namedHash? (before after : Session) : Option String :=
  if after.callCount submission = before.callCount submission then none
  else (before.answerOf submission 0).hash?.map Hex.marked

/-- What a transaction through a node comes to, whatever the node answers. -/
structure SubmittedOnce (link : Node) (contract function : String) (args : List Arg)
    (value : Int) (before : Session) (outcome : Except Failure Receipt) (after : Session) :
    Prop where
  once : after.callCount submission ≤ before.callCount submission + 1
  /-- Nothing is submitted but after a trial call that the node answered with what the
  function could have returned. -/
  rehearsed : after.callCount submission ≠ before.callCount submission →
    ∃ registry entry data middle, functionNamed contract function = .ok (registry, entry) ∧
      entry.callData args = .ok data ∧
      Runs (rehearse contract function link ⟨registry, entry, args, data, value⟩) before
        (.ok ()) middle ∧
      ∃ returned bytes result, before.answerOf "eth_call" 0 = .result returned ∧
        Errand.written? returned = some bytes ∧ entry.results bytes = some result
  /-- The last document that the node answered has the status of a success. -/
  received : ∀ receipt, outcome = .ok receipt →
    after.callCount submission = before.callCount submission + 1 ∧
    namedHash? before after = some receipt.hash ∧ receipt.status = 1 ∧
    ∃ turn document, before.answerOf receiptLook turn = .result document ∧
      after.callCount receiptLook = before.callCount receiptLook + turn + 1 ∧
      statusOf? document = some 1
  failed : ∀ failure, outcome = .error failure →
    failure.Blames contract function (namedHash? before after)

section Transactions

variable {link : Node} {contract function : String} {args : List Arg} {value : Int}
variable {outcome : Except Failure Receipt}

/-- Nothing was submitted, and no hash is reported. -/
theorem SubmittedOnce.of_spared {failure : Failure} (spared : Spares submission before after)
    (blames : failure.Blames contract function none) :
    SubmittedOnce link contract function args value before (.error failure) after where
  once := by rw [spared.count]; omega
  rehearsed := fun submitted => absurd spared.count submitted
  received := fun receipt same => nomatch same
  failed := by
    rintro failure' same
    obtain rfl := Except.error.inj same
    rw [namedHash?, if_pos spared.count]
    exact blames

theorem rehearse_asks (order : Order) :
    Errand.Asks ⟨contract, function, true, none⟩ callMethods
      (rehearse contract function link order) :=
  (invoke_asks order.function order.args _ _).discard

theorem rehearse_ok {order : Order} (run : Runs (rehearse contract function link order) before
    (.ok ()) after) :
    ∃ returned bytes result, before.answerOf "eth_call" 0 = .result returned ∧
      Errand.written? returned = some bytes ∧ order.function.results bytes = some result := by
  obtain ⟨result, middle, run, -⟩ := Runs.bind_ok_inv run
  rw [invoke] at run
  split at run
  · exact absurd run Runs.not_throw_ok
  · obtain ⟨returned, data, answered, written, read⟩ := results_ok run
    exact ⟨returned, data, result, answered, written, read⟩

/-- From the submission on, what the node answered to it decides the hash that is
reported. -/
theorem submit_inv {signed : Bytes} {timeout : Binary64} (unnamed : errand.hash = none)
    (run : Runs (do
      let hash ← errand.askHash submission [.str (Hex.marked signed)]
      confirm errand hash timeout) before outcome after) :
    after.callCount submission = before.callCount submission + 1 ∧
    (∀ receipt, outcome = .ok receipt →
      (before.answerOf submission 0).hash?.map Hex.marked = some receipt.hash ∧
      receipt.status = 1 ∧
      ∃ turn document, before.answerOf receiptLook turn = .result document ∧
        after.callCount receiptLook = before.callCount receiptLook + turn + 1 ∧
        statusOf? document = some 1) ∧
    ∀ failure, outcome = .error failure → failure.Blames errand.contract errand.function
      ((before.answerOf submission 0).hash?.map Hex.marked) := by
  rcases Runs.bind_inv run with ⟨hash, named, hashRun, confirmRun⟩ | ⟨failure, hashRun, rfl⟩
  · obtain ⟨turns, others, read⟩ := Errand.askHash_inv hashRun
    have looks : Spares receiptLook before named := others receiptLook (by decide)
    have is : (before.answerOf submission 0).hash? = some hash := by
      split at read
      · next hash' is => rw [is, Except.ok.inj read]
      · obtain ⟨_, _, same⟩ := read
        cases same
    have asked := confirm_asks errand hash timeout confirmRun
    rw [is]
    refine ⟨(asked.spares submission (by decide)).count.trans turns.count, ?_, asked.blames⟩
    rintro receipt rfl
    obtain ⟨reported, success, turn, document, found, count, status⟩ := confirm_ok confirmRun
    refine ⟨congrArg some reported.symm, success, turn, document, ?_, ?_, status⟩
    · rw [← looks.answers, found]
    · rw [count, looks.count]
  · obtain ⟨turns, others, read⟩ := Errand.askHash_inv hashRun
    refine ⟨turns.count, ?_, ?_⟩
    · rintro receipt same
      cases same
    · split at read
      · cases read
      · next is =>
        obtain ⟨reason, cause, same⟩ := read
        rw [is, Option.map_none, ← unnamed, Except.error.inj same]
        rintro failure' same
        exact Except.error.inj same ▸ errand.blames_failure reason cause

theorem transact_submitted_once {gasLimit : Option Int}
    (run : Runs (transact link contract function args value gasLimit) before outcome after) :
    SubmittedOnce link contract function args value before outcome after := by
  rcases (Runs.require_bind run).symm with ⟨_, -, rfl, rfl⟩ | ⟨⟨registry, entry⟩, known, run⟩
  · exact .of_spared (.refl _ _) trivial
  rcases (Runs.require_bind run).symm with ⟨_, -, rfl, rfl⟩ | ⟨data, fits, run⟩
  · exact .of_spared (.refl _ _) trivial
  rcases (Runs.bind_inv run).symm with ⟨failure, tryRun, rfl⟩ | ⟨_, tried, tryRun, run⟩
  · have asked := rehearse_asks _ tryRun
    exact .of_spared (asked.spares _ (by decide)) (asked.blames _ rfl)
  have trial := rehearse_asks _ tryRun
  rcases (Runs.bind_inv run).symm with ⟨failure, prepareRun, rfl⟩ | ⟨signed, prepared, prepareRun, run⟩
  · have asked := prepare_asks _ _ _ prepareRun
    have spared := (trial.spares submission (by decide)).trans (asked.spares _ (by decide))
    exact .of_spared spared (asked.blames _ rfl)
  have preparation := prepare_asks _ _ _ prepareRun
  have spared : Spares submission before prepared :=
    (trial.spares _ (by decide)).trans (preparation.spares _ (by decide))
  have looks : Spares receiptLook before prepared :=
    (trial.spares _ (by decide)).trans (preparation.spares _ (by decide))
  obtain ⟨once, received, failed⟩ := submit_inv rfl run
  rw [spared.count] at once
  have submitted : after.callCount submission ≠ before.callCount submission := by omega
  have named : namedHash? before after =
      (prepared.answerOf submission 0).hash?.map Hex.marked := by
    rw [namedHash?, if_neg submitted, spared.answers]
  rw [spared.answers, looks.answers, looks.count] at received
  constructor
  case once => omega
  case rehearsed =>
    intro _
    exact ⟨registry, entry, data, tried, known, fits, tryRun, rehearse_ok tryRun⟩
  case received =>
    intro receipt is
    rw [named, spared.answers]
    exact ⟨once, received receipt is⟩
  case failed =>
    rw [named]
    exact failed

/-- More of the session may happen behind a transaction, as long as nothing is called. -/
theorem SubmittedOnce.later {after' : Session}
    (submitted : SubmittedOnce link contract function args value before outcome after)
    (spared : ∀ method, Spares method after after') :
    SubmittedOnce link contract function args value before outcome after' := by
  have count (method : String) : after'.callCount method = after.callCount method :=
    (spared method).count
  have named : namedHash? before after' = namedHash? before after := by
    rw [namedHash?, namedHash?, count]
  constructor
  case once => rw [count]; exact submitted.once
  case rehearsed => rw [count]; exact submitted.rehearsed
  case received => rw [count, count, named]; exact submitted.received
  case failed => rw [named]; exact submitted.failed

end Transactions

end Remote

end Contract

namespace Chain

variable {before after : Session} {link : Node} {contract function : String}
variable {args : List Arg} {value : Int} {gasLimit : Option Int}

/-- A transaction through a node is submitted at most once, and only after a trial call that
went well. It is confirmed only with the hash that the node named for it and with the status
of a success, and a failure tells this hash exactly if the node named one. -/
theorem transact_submits_once {outcome : Except Failure Receipt} (on : before.chain = .node link)
    (run : Runs (Chain.transact contract function args value gasLimit) before outcome after) :
    Remote.SubmittedOnce link contract function args value before outcome after := by
  have sends {outcome : Except Failure Receipt} {after : Session}
      (run : Runs (Chain.send contract function args value gasLimit) before outcome after) :
      Runs (Remote.transact link contract function args value gasLimit) before outcome after := by
    have run := Runs.get_bind run
    simp only [on] at run
    exact run
  rcases Runs.bind_inv run with ⟨receipt, sent, sendRun, run⟩ | ⟨failure, sendRun, rfl⟩
  · obtain ⟨rfl, rfl⟩ := (Runs.record_bind run).pure_inv
    refine (Remote.transact_submitted_once (sends sendRun)).later fun method => ⟨rfl, ?_⟩
    exact List.countP_append.trans (Nat.add_zero _)
  · exact Remote.transact_submitted_once (sends sendRun)

/-- A node that answers everything a transaction needs, with the same hash to everyone. -/
def sampleNode : Node where
  secret := 1
  address := "0x7E5F4552091A69125d5DfCb7b8C2659029395Bdf"
  chainId := 10
  timeout := Binary64.ofInt 2
  locate := fun _ => List.replicate 20 7
  script :=
    let hash := Hex.marked (List.replicate 32 17)
    [("eth_chainId", [.result (.str "0xa")]),
      ("eth_call", [.result (.str "0x")]),
      ("eth_getTransactionCount", [.result (.str "0x0")]),
      ("eth_maxPriorityFeePerGas", [.result (.str "0x1")]),
      ("eth_getBlockByNumber", [.result (.obj [("baseFeePerGas", .str "0x1")])]),
      ("eth_sendRawTransaction", [.result (.str hash)]),
      ("eth_getTransactionReceipt", [.result .null, .result (.obj [("status", .str "0x1"),
        ("blockNumber", .str "0x2"), ("logs", .arr [])])])]

def sampleNodeSession : Session where
  clock := Clock.ofStart (Binary64.ofInt 1700000000)
  seeds := []
  generated := 0
  chain := .node sampleNode
  peers := Peers.silent
  journal := []
  kept := none

def sampleArgs : List Arg := [.int 1, .bytes [2], .int 1, .bytes []]

def sampleNodeRun : Except Failure Receipt × Session :=
  StateT.run (ExceptT.run (Chain.transact "KeyGateway" "add" sampleArgs 0 (some 100000)))
    sampleNodeSession

set_option maxRecDepth 4000 in
theorem sampleNodeRun_received : sampleNodeRun.1.toOption.isSome := by
  decide +kernel

theorem sampleNode_submits_once :
    sampleNodeSession.chain = .node sampleNode ∧
    Runs (Chain.transact "KeyGateway" "add" sampleArgs 0 (some 100000)) sampleNodeSession
      sampleNodeRun.1 sampleNodeRun.2 ∧
    Remote.SubmittedOnce sampleNode "KeyGateway" "add" sampleArgs 0 sampleNodeSession
      sampleNodeRun.1 sampleNodeRun.2 ∧
    ∃ receipt, sampleNodeRun.1 = .ok receipt ∧ receipt.status = 1 ∧
      sampleNodeRun.2.callCount submission = 1 := by
  have ran : Runs (Chain.transact "KeyGateway" "add" sampleArgs 0 (some 100000)) sampleNodeSession
      sampleNodeRun.1 sampleNodeRun.2 := .run _ _
  have submitted := transact_submits_once rfl ran
  have received := sampleNodeRun_received
  refine ⟨rfl, ran, submitted, ?_⟩
  cases outcome : sampleNodeRun.1 with
  | error failure =>
    rw [outcome] at received
    cases received
  | ok receipt =>
    obtain ⟨count, -, success, -⟩ := submitted.received receipt outcome
    exact ⟨receipt, rfl, success, count⟩

end Chain

end Provisioning
