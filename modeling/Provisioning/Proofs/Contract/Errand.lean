import Provisioning.Contract.Errand
import Provisioning.Proofs.Ethereum.Address
import Provisioning.Proofs.Session.Talk

/-!
# What an errand asks and whom it blames

A node answers each method in turn (`Session.answerOf`). An errand that only asks some
methods leaves the turns of all others as they are, and does nothing away from the chain.
Every transaction failure it ends in names the contract, the function and the hash that the
errand was started with. `Errand.Asks errand methods action` says so, and is kept by
composition (`Asks.bind`). It holds of everything that an errand can do with an answer.
-/

namespace Provisioning

/-! ## Turns of a script -/

/-- The answer that a script gives at a turn, counted from zero. -/
def Script.turn? {α : Type} : List α → Nat → Option α
  | [], _ => none
  | [last], _ => some last
  | first :: _ :: _, 0 => some first
  | _ :: next :: rest, turn + 1 => turn? (next :: rest) turn

theorem Script.turn?_zero {α : Type} (script : List α) : turn? script 0 = script.head? := by
  match script with
  | [] | [_] | _ :: _ :: _ => rfl

theorem Script.turn?_afterFirst {α : Type} (script : List α) (turn : Nat) :
    turn? (afterFirst script) turn = turn? script (turn + 1) := by
  match script with
  | [] | [_] | _ :: _ :: _ => rfl

namespace Contract

/-- Nobody is at the other end. -/
def NodeAnswer.nobody : NodeAnswer := .lost .connection "connection refused"

namespace Node

/-- What a script holds for a method. -/
def answersTo (method : String) : List (String × List NodeAnswer) → List NodeAnswer
  | [] => []
  | (name, answers) :: rest => if name = method then answers else answersTo method rest

theorem next_fst (method : String) (script : List (String × List NodeAnswer)) :
    (next method script).1 = (answersTo method script).head?.getD .nobody := by
  induction script with
  | nil => rfl
  | cons entry rest ih =>
    rw [next, answersTo]
    split
    · rfl
    · exact ih

theorem answersTo_next (method : String) (script : List (String × List NodeAnswer)) :
    answersTo method (next method script).2 = Script.afterFirst (answersTo method script) := by
  induction script with
  | nil => rfl
  | cons entry rest ih =>
    rw [next, answersTo]
    split
    · next named => exact if_pos named
    · next other => exact (if_neg other).trans ih

theorem answersTo_next_of_ne {method other : String} (ne : other ≠ method)
    (script : List (String × List NodeAnswer)) :
    answersTo other (next method script).2 = answersTo other script := by
  induction script with
  | nil => rfl
  | cons entry rest ih =>
    rw [next]
    split
    · next named =>
      have unlike : ¬entry.1 = other := fun same => ne (same.symm.trans named)
      exact (if_neg unlike).trans (if_neg unlike).symm
    · show (if entry.1 = other then entry.2 else _) = (if entry.1 = other then entry.2 else _)
      rw [ih]

end Node

end Contract

open Contract

namespace Session

/-- The answer that the node of a session gives to a method at a turn, counted from now. -/
def answerOf (session : Session) (method : String) (turn : Nat) : NodeAnswer :=
  match session.chain with
  | .ledger _ => .nobody
  | .node link => (Script.turn? (Node.answersTo method link.script) turn).getD .nobody

/-- How often a method was called. -/
def callCount (session : Session) (method : String) : Nat :=
  session.journal.countP fun happening =>
    match happening with
    | .called name _ => name == method
    | _ => false

/-- A method was not called in between. -/
structure Spares (method : String) (before after : Session) : Prop where
  answers : after.answerOf method = before.answerOf method
  count : after.callCount method = before.callCount method

/-- A method was called once in between. -/
structure Turns (method : String) (before after : Session) : Prop where
  answers : ∀ turn, after.answerOf method turn = before.answerOf method (turn + 1)
  count : after.callCount method = before.callCount method + 1

namespace Spares

variable {method : String} {before middle after : Session}

theorem refl (method : String) (session : Session) : Spares method session session :=
  ⟨rfl, rfl⟩

theorem trans (first : Spares method before middle) (rest : Spares method middle after) :
    Spares method before after :=
  ⟨rest.answers.trans first.answers, rest.count.trans first.count⟩

theorem noted (method : String) (session : Session) (level : Level) (source : Source)
    (text : String) : Spares method session
      { session with journal := session.journal ++ [.noted level source text] } :=
  ⟨rfl, List.countP_append.trans (Nat.add_zero _)⟩

end Spares

end Session

/-- A note, or something that is done with the chain. -/
def Happening.IsChainWork : Happening → Prop
  | .noted .. | .sent _ | .confirmed .. | .called .. => True
  | .slept _ | .requested .. | .answered .. | .printed _ => False

/-- Nothing is done in between but work with the chain. -/
structure Session.Stays (before after : Session) : Prop where
  journal : Grows Happening.IsChainWork before after
  peers : after.peers = before.peers
  kept : after.kept = before.kept

namespace Session.Stays

variable {before middle after : Session}

theorem refl (session : Session) : Stays session session :=
  ⟨.refl _ session, rfl, rfl⟩

theorem trans (first : Stays before middle) (rest : Stays middle after) : Stays before after :=
  ⟨first.journal.trans rest.journal, rest.peers.trans first.peers, rest.kept.trans first.kept⟩

/-- One happening is written down, and time may pass. -/
theorem recorded {happening : Happening} {clock : Clock} {chain : Chain}
    (isWork : happening.IsChainWork) : Stays before
      { before with clock, chain, journal := before.journal ++ [happening] } :=
  ⟨⟨[happening], rfl, by simpa using isWork⟩, rfl, rfl⟩

end Session.Stays

open Session

/-- A transaction failure names this contract, function and hash. Other failures name none
of them. -/
def Failure.Blames (contract function : String) (hash : Option String) : Failure → Prop
  | .chainTransaction contract' function' _ hash' _ =>
    contract' = contract ∧ function' = function ∧ hash' = hash
  | _ => True

/-- Whether a failure is the chain's. -/
def Failure.isOfChain : Failure → Bool
  | .chainTransaction .. => true
  | _ => false

namespace Errand

/-- What comes of an action on an errand that calls none but some methods. -/
structure Asked {α : Type} (errand : Errand) (methods : List String) (before : Session)
    (outcome : Except Failure α) (after : Session) : Prop where
  spares : ∀ method, method ∉ methods → Spares method before after
  stays : before.Stays after
  blames : ∀ failure, outcome = .error failure →
    failure.Blames errand.contract errand.function errand.hash

/-- Every run of the action calls none but these methods, stays with the chain, and blames the
errand. -/
def Asks {α : Type} (errand : Errand) (methods : List String) (action : Action α) : Prop :=
  ∀ ⦃before outcome after⦄, Runs action before outcome after →
    errand.Asked methods before outcome after

theorem blames_failure (errand : Errand) (reason : String) (cause : NodeFault) :
    (errand.failure reason cause).Blames errand.contract errand.function errand.hash :=
  ⟨rfl, rfl, rfl⟩

variable {α β : Type} {errand : Errand} {methods others : List String}
variable {before after : Session}

namespace Asks

theorem mono {action : Action α} (asks : errand.Asks methods action)
    (within : methods ⊆ others) : errand.Asks others action := by
  intro before outcome after run
  have asked := asks run
  exact ⟨fun method outside => asked.spares method fun inside => outside (within inside),
    asked.stays, asked.blames⟩

theorem pure (value : α) : errand.Asks methods (pure value) := by
  intro before outcome after run
  obtain ⟨rfl, rfl⟩ := run.pure_inv
  exact ⟨fun method _ => .refl method _, .refl _, by simp⟩

theorem get : errand.Asks methods (MonadState.get : Action Session) := by
  intro before outcome after run
  obtain ⟨rfl, rfl⟩ := Runs.get_inv run
  exact ⟨fun method _ => .refl method _, .refl _, by simp⟩

/-- Time passes. -/
theorem advance (seconds : Binary64) : errand.Asks methods (Session.advance seconds) := by
  intro before outcome after run
  obtain ⟨rfl, rfl⟩ := Runs.modify_inv run
  exact ⟨fun method _ => ⟨rfl, rfl⟩, ⟨⟨[], by simp, by simp⟩, rfl, rfl⟩, by simp⟩

theorem throw {failure : Failure}
    (blames : failure.Blames errand.contract errand.function errand.hash) :
    errand.Asks methods (throw failure : Action α) := by
  intro before outcome after run
  obtain ⟨rfl, rfl⟩ := run.throw_inv
  refine ⟨fun method _ => .refl method _, .refl _, ?_⟩
  rintro failure' same
  obtain rfl := Except.error.inj same
  exact blames

theorem fail (reason : String) (cause : NodeFault) :
    errand.Asks methods (errand.fail reason cause : Action α) :=
  throw (errand.blames_failure reason cause)

theorem require (value : Except Fault α) : errand.Asks methods (require value) := by
  cases value with
  | ok value => exact pure value
  | error fault => exact throw trivial

theorem bind {action : Action α} {next : α → Action β} (first : errand.Asks methods action)
    (rest : ∀ value, errand.Asks methods (next value)) :
    errand.Asks methods (action >>= next) := by
  intro before outcome after run
  rcases run.bind_inv with ⟨value, middle, firstRun, restRun⟩ | ⟨failure, firstRun, rfl⟩
  · have early := first firstRun
    have late := rest value restRun
    exact ⟨fun method outside => (early.spares method outside).trans (late.spares method outside),
      early.stays.trans late.stays, late.blames⟩
  · have early := first firstRun
    refine ⟨early.spares, early.stays, ?_⟩
    rintro failure' same
    obtain rfl := Except.error.inj same
    exact early.blames _ rfl

theorem discard {action : Action α} (asks : errand.Asks methods action) :
    errand.Asks methods (discard action) :=
  asks.bind fun _ => pure PUnit.unit

theorem forM {action : α → Action PUnit} (each : ∀ item, errand.Asks methods (action item))
    (items : List α) : errand.Asks methods (items.forM action) := by
  induction items with
  | nil => exact pure PUnit.unit
  | cons item rest ih => exact (each item).bind fun _ => ih

theorem mapM {action : α → Action β} (each : ∀ item, errand.Asks methods (action item))
    (items : List α) : errand.Asks methods (items.mapM action) := by
  induction items with
  | nil => exact pure []
  | cons item rest ih =>
    rw [List.mapM_cons]
    exact (each item).bind fun _ => ih.bind fun _ => pure _

theorem note (level : Level) (source : Source) (text : String) :
    errand.Asks methods (Session.note level source text) := by
  intro before outcome after run
  obtain ⟨rfl, rfl⟩ := Runs.modify_inv run
  exact ⟨fun method _ => .noted method _ level source text, .recorded trivial, by simp⟩

end Asks

/-! ## Asking -/

/-- Asking a node is work with the chain. -/
theorem answerTo_stays {method : String} {params : Json} {outcome : Except Failure NodeAnswer}
    (run : Runs (answerTo method params) before outcome after) : before.Stays after := by
  have run := Runs.get_bind (Runs.record_bind run)
  split at run
  · obtain ⟨-, rfl⟩ := run.pure_inv
    exact .recorded trivial
  · obtain ⟨-, rfl⟩ := (Runs.modify_bind run).pure_inv
    exact .recorded trivial

/-- The node gives the answer whose turn it is, and only this method's turn is over. -/
theorem answerTo_inv {method : String} {params : Json}
    {outcome : Except Failure NodeAnswer} (run : Runs (answerTo method params) before outcome after) :
    outcome = .ok (before.answerOf method 0) ∧ Turns method before after ∧
      ∀ other, other ≠ method → Spares other before after := by
  have run := Runs.get_bind (Runs.record_bind run)
  have counted (other : String) (journal : List Happening) :
      (journal ++ [Happening.called method params]).countP
          (fun happening => match happening with | .called name _ => name == other | _ => false) =
        journal.countP (fun happening =>
          match happening with | .called name _ => name == other | _ => false) +
          if method = other then 1 else 0 := by
    rw [List.countP_append, List.countP_singleton]
    simp only [beq_iff_eq]
  have untouched {other : String} (ne : other ≠ method) : (if method = other then 1 else 0) = 0 :=
    if_neg ne.symm
  rcases on : before.chain with ledger | link
  · simp only [on] at run
    obtain ⟨rfl, rfl⟩ := run.pure_inv
    refine ⟨by simp only [answerOf, on]; rfl, ⟨fun turn => by simp only [answerOf, on], ?_⟩, ?_⟩
    · exact (counted method before.journal).trans (by rw [if_pos rfl]; rfl)
    · intro other ne
      refine ⟨by funext turn; simp only [answerOf, on], ?_⟩
      exact (counted other before.journal).trans (by rw [untouched ne]; rfl)
  · simp only [on] at run
    obtain ⟨rfl, rfl⟩ := (Runs.modify_bind run).pure_inv
    refine ⟨?_, ⟨fun turn => ?_, ?_⟩, ?_⟩
    · simp only [answerOf, on, Script.turn?_zero, Node.next_fst]
    · simp only [answerOf, on, Node.answersTo_next, Script.turn?_afterFirst]
    · exact (counted method before.journal).trans (by rw [if_pos rfl]; rfl)
    · intro other ne
      refine ⟨by funext turn; simp only [answerOf, on, Node.answersTo_next_of_ne ne], ?_⟩
      exact (counted other before.journal).trans (by rw [untouched ne]; rfl)

theorem answerTo_asks (method : String) (params : Json) :
    errand.Asks [method] (answerTo method params) := by
  intro before outcome after run
  obtain ⟨rfl, -, spares⟩ := answerTo_inv run
  exact ⟨fun other outside => spares other fun same => outside (by simp [same]),
    answerTo_stays run, by simp⟩

theorem accept_asks (explain : Json → String × NodeFault) (answer : NodeAnswer) :
    errand.Asks methods (errand.accept explain answer) := by
  cases answer with
  | result value => exact .pure value
  | error error => exact .fail _ _
  | lost kind text => exact .fail _ _

/-- Only a result is accepted. -/
theorem accept_ok {explain : Json → String × NodeFault} {answer : NodeAnswer} {value : Json}
    (run : Runs (errand.accept explain answer) before (.ok value) after) :
    answer = .result value ∧ after = before := by
  cases answer with
  | result value' =>
    obtain ⟨rfl, rfl⟩ := Runs.pure_ok_inv run
    exact ⟨rfl, rfl⟩
  | error error => exact absurd run Runs.not_throw_ok
  | lost kind text => exact absurd run Runs.not_throw_ok

theorem ask_asks (method : String) (params : List Json) :
    errand.Asks [method] (errand.ask method params) :=
  (answerTo_asks method _).bind fun answer => accept_asks _ answer

theorem askContract_asks (method : String) (params : List Json) :
    errand.Asks [method] (errand.askContract method params) :=
  (answerTo_asks method _).bind fun answer => accept_asks _ answer

/-! ## Reading -/

theorem number_asks (value : Json) : errand.Asks methods (errand.number value) := by
  cases value with
  | str text =>
    rw [number]
    split
    · exact .pure _
    · exact .fail _ _
  | null | bool | int | float | arr | obj => exact .pure _

/-- The number that a text writes; any other value as it is. -/
def numbered? : Json → Option Json
  | .str text => (Quantity.ofText? text).map fun n => .int n
  | other => some other

/-- A number is the one that the value tells. -/
theorem number_inv {value : Json} {before after : Session} {outcome : Except Failure Json}
    (run : Runs (errand.number value) before outcome after) :
    after = before ∧
      match numbered? value with
      | some number => outcome = .ok number
      | none => ∃ reason cause, outcome = .error (errand.failure reason cause) := by
  cases value with
  | str text =>
    rw [Errand.number] at run
    cases read : Quantity.ofText? text with
    | some n =>
      rw [read] at run
      obtain ⟨rfl, rfl⟩ := run.pure_inv
      simp [numbered?, read]
    | none =>
      rw [read] at run
      obtain ⟨rfl, rfl⟩ := Runs.throw_inv run
      rw [numbered?, read]
      exact ⟨rfl, _, _, rfl⟩
  | null | bool | int | float | arr | obj =>
    obtain ⟨rfl, rfl⟩ := Runs.pure_inv run
    exact ⟨rfl, rfl⟩

theorem askNumber_asks (method : String) (params : List Json) :
    errand.Asks [method] (errand.askNumber method params) :=
  (ask_asks method params).bind fun value => number_asks value

theorem chainNumber_asks : errand.Asks ["eth_chainId"] errand.chainNumber :=
  askNumber_asks "eth_chainId" []

theorem unwritten_blames (value : Json) :
    (errand.unwritten value).Blames errand.contract errand.function errand.hash := by
  cases value with
  | str | int => exact errand.blames_failure _ _
  | null | bool | float | arr | obj => trivial

/-- What holds bytes but writes none is blamed on the errand. -/
theorem unwritten_failure (errand : Errand) {value : Json} (holds : holdsBytes value = true)
    (unread : written? value = none) :
    ∃ reason cause, errand.unwritten value = errand.failure reason cause := by
  cases value with
  | str | int => exact ⟨_, _, rfl⟩
  | bool => cases unread
  | null | float | arr | obj => cases holds

theorem bytes_asks (value : Json) : errand.Asks methods (errand.bytes value) := by
  rw [bytes]
  split
  · exact .pure _
  · exact .throw (unwritten_blames value)

theorem bytes_ok {value : Json} {bytes : Bytes}
    (run : Runs (errand.bytes value) before (.ok bytes) after) :
    written? value = some bytes ∧ after = before := by
  rw [Errand.bytes] at run
  split at run
  · next written =>
    obtain ⟨rfl, rfl⟩ := run.pure_ok_inv
    exact ⟨written, rfl⟩
  · exact absurd run Runs.not_throw_ok

theorem holdsBytes_of_written {value : Json} {bytes : Bytes}
    (written : written? value = some bytes) : holdsBytes value = true := by
  cases value with
  | str | bool | int => rfl
  | null | float | arr | obj => simp [written?] at written

/-- Bytes of a size are read exactly if the value writes such bytes; what cannot be read
is blamed on the errand. -/
theorem sized_inv {size : Nat} {value : Json} {outcome : Except Failure Bytes}
    (run : Runs (errand.sized size value) before outcome after) :
    after = before ∧
      match (written? value).bind (fitted? size) with
      | some fitted => outcome = .ok fitted
      | none => ∃ reason cause, outcome = .error (errand.failure reason cause) := by
  rw [sized] at run
  cases written : written? value with
  | none =>
    have reads : errand.bytes value = throw (errand.unwritten value) := by
      simp only [Errand.bytes, written]
    cases holds : holdsBytes value with
    | false =>
      rw [holds] at run
      obtain ⟨rfl, rfl⟩ := Runs.throw_bind run
      exact ⟨rfl, _, _, rfl⟩
    | true =>
      obtain ⟨reason, cause, isFailure⟩ := unwritten_failure errand holds written
      rw [holds, reads, isFailure] at run
      obtain ⟨rfl, rfl⟩ := Runs.throw_bind run
      exact ⟨rfl, _, _, rfl⟩
  | some bytes =>
    have reads : errand.bytes value = pure bytes := by simp only [Errand.bytes, written]
    rw [holdsBytes_of_written written, reads] at run
    have run := Runs.pure_bind run
    rw [Option.bind_some]
    cases fits : fitted? size bytes with
    | some fitted =>
      rw [fits] at run
      obtain ⟨rfl, rfl⟩ := run.pure_inv
      exact ⟨rfl, rfl⟩
    | none =>
      rw [fits] at run
      obtain ⟨rfl, rfl⟩ := Runs.throw_inv run
      exact ⟨rfl, _, _, rfl⟩

theorem sized_asks (size : Nat) (value : Json) :
    errand.Asks methods (errand.sized size value) := by
  intro before outcome after run
  obtain ⟨rfl, read⟩ := sized_inv run
  refine ⟨fun method _ => .refl method _, .refl _, ?_⟩
  rintro failure rfl
  split at read
  · simp at read
  · obtain ⟨_, _, same⟩ := read
    rw [Except.error.inj same]
    exact errand.blames_failure _ _

theorem call_asks (request : Json) :
    errand.Asks ["eth_chainId", "eth_call"] (errand.call request) := by
  have chain : errand.Asks ["eth_chainId", "eth_call"] errand.chainNumber :=
    chainNumber_asks.mono (by simp)
  have answer : errand.Asks ["eth_chainId", "eth_call"]
      (errand.askContract "eth_call" [request, .str "latest"]) :=
    (askContract_asks _ _).mono (by simp)
  exact chain.bind fun _ => answer.bind fun value => bytes_asks value

/-- A call that returns bytes got them from the node. -/
theorem call_ok {request : Json} {data : Bytes}
    (run : Runs (errand.call request) before (.ok data) after) :
    ∃ returned, before.answerOf "eth_call" 0 = .result returned ∧
      written? returned = some data := by
  obtain ⟨chain, middle, chainRun, run⟩ := Runs.bind_ok_inv run
  have spared := (chainNumber_asks chainRun).spares "eth_call" (by simp)
  obtain ⟨returned, later, askRun, run⟩ := Runs.bind_ok_inv run
  obtain ⟨answer, asked, answerRun, acceptRun⟩ := Runs.bind_ok_inv askRun
  obtain ⟨given, -, -⟩ := answerTo_inv answerRun
  obtain ⟨rfl, -⟩ := accept_ok acceptRun
  have here : middle.answerOf "eth_call" 0 = .result returned := (Except.ok.inj given).symm
  exact ⟨returned, (congrFun spared.answers 0).symm.trans here, (bytes_ok run).1⟩

end Errand

/-! ## Hashes in answers -/

/-- The hash that an answer names, if it names one. -/
def Contract.NodeAnswer.hash? : NodeAnswer → Option Bytes
  | .result value => (Errand.written? value).bind (Errand.fitted? 32)
  | .error _ | .lost .. => none

/-- Whoever asks for a hash gets the one that the answer names, or blames the errand. -/
theorem Errand.askHash_inv {errand : Errand} {before after : Session} {method : String}
    {params : List Json} {outcome : Except Failure Bytes}
    (run : Runs (errand.askHash method params) before outcome after) :
    Turns method before after ∧ (∀ other, other ≠ method → Spares other before after) ∧
      match (before.answerOf method 0).hash? with
      | some hash => outcome = .ok hash
      | none => ∃ reason cause, outcome = .error (errand.failure reason cause) := by
  rcases Runs.bind_inv run with ⟨value, asked, askRun, sizedRun⟩ | ⟨failure, askRun, rfl⟩
  · obtain ⟨answer, given, answerRun, acceptRun⟩ := Runs.bind_ok_inv askRun
    obtain ⟨is, turns, others⟩ := answerTo_inv answerRun
    obtain ⟨rfl, rfl⟩ := accept_ok acceptRun
    obtain ⟨rfl, read⟩ := sized_inv sizedRun
    rw [← Except.ok.inj is]
    exact ⟨turns, others, read⟩
  · rcases Runs.bind_inv askRun with ⟨answer, given, answerRun, acceptRun⟩ | ⟨_, answerRun, -⟩
    · obtain ⟨is, turns, others⟩ := answerTo_inv answerRun
      rw [← Except.ok.inj is]
      cases answer with
      | result value => cases (Runs.pure_inv acceptRun).1
      | error | lost =>
        obtain ⟨same, rfl⟩ := Runs.throw_inv acceptRun
        rw [Except.error.inj same]
        exact ⟨turns, others, _, _, rfl⟩
    · cases (answerTo_inv answerRun).1

end Provisioning
