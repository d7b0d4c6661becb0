import Provisioning.Proofs.Session.Chain
import Provisioning.Proofs.Session.Exchange

/-!
# Moves of a session

A move is what a session does to the outside: a transaction of the chain with the receipt
it had, if any, a request to a peer with the response it had, if any, or a line that is
printed. `Makes moves before after` says that exactly these moves, in this order, lie between
two sessions, with nothing but notes and waits around them. Moves of actions in sequence
follow each other (`Makes.trans`). A transaction on a ledger is one move
(`Chain.transact_moves`), and an exchange at most one (`Session.exchange_moves`), whose
outcome is its response or the want of one (`Session.exchange_replied`). A move is what
counts here of a journal; `Leaves counts` is the same for any other choice.
-/

namespace Provisioning

open Contract Session

/-- Something that is done to the outside, and what came of it. -/
inductive Move where
  | call (sent : Transaction) (receipt? : Option Receipt)
  | exchange (request : Http.Request) (path : String) (response? : Option Http.Response)
  | print (line : String)

namespace Move

/-- How a move is written down. -/
def trace : Move → List Happening
  | .call sent none => [.sent sent]
  | .call sent (some receipt) => [.sent sent, .confirmed sent.contract sent.function receipt]
  | .exchange request path none => [.requested request path]
  | .exchange request path (some response) => [.requested request path, .answered request response]
  | .print line => [.printed line]

/-- A call of a function of a contract. -/
def IsTransaction (contract function : String) : Move → Prop
  | .call sent _ => sent.contract = contract ∧ sent.function = function
  | .exchange .. | .print _ => False

/-- A request that fits. -/
def IsRequest (fits : Http.Request → Prop) : Move → Prop
  | .exchange request _ _ => fits request
  | .call .. | .print _ => False

/-- The request was answered, and the answer fits. -/
def IsAnswered (fits : Http.Response → Prop) : Move → Prop
  | .exchange _ _ (some response) => fits response
  | .exchange _ _ none | .call .. | .print _ => False

/-- A transaction that was confirmed, or a request whose answer reports success. -/
def Succeeded : Move → Prop
  | .call _ receipt? => receipt?.isSome
  | .exchange _ _ (some response) => response.ok
  | .exchange _ _ none | .print _ => False

end Move

/-- Everything but notes and waits is done to the outside. -/
def Happening.isOutside : Happening → Bool
  | .noted .. | .slept _ => false
  | .sent _ | .confirmed .. | .requested .. | .answered .. | .called .. | .printed _ => true

theorem Move.isOutside_of_mem_trace {move : Move} :
    ∀ happening ∈ move.trace, happening.isOutside = true := by
  cases move with
  | call sent receipt? => cases receipt? <;> simp [trace, Happening.isOutside]
  | exchange request path response? => cases response? <;> simp [trace, Happening.isOutside]
  | print line => simp [trace, Happening.isOutside]

/-- What counts of the journal between two sessions, in order. -/
def Leaves (counts : Happening → Bool) (trace : List Happening) (before after : Session) : Prop :=
  ∃ new, after.journal = before.journal ++ new ∧ new.filter counts = trace

namespace Leaves

variable {counts : Happening → Bool} {trace more : List Happening} {before middle after : Session}

theorem refl (session : Session) : Leaves counts [] session session :=
  ⟨[], by simp, rfl⟩

theorem trans (first : Leaves counts trace before middle) (rest : Leaves counts more middle after) :
    Leaves counts (trace ++ more) before after := by
  obtain ⟨early, journal, isEarly⟩ := first
  obtain ⟨late, journal', isLate⟩ := rest
  refine ⟨early ++ late, by rw [journal', journal, List.append_assoc], ?_⟩
  rw [List.filter_append, isEarly, isLate]

/-- What is written down counts as a whole. -/
theorem of_journal (journal : after.journal = before.journal ++ trace)
    (all : ∀ happening ∈ trace, counts happening = true) : Leaves counts trace before after :=
  ⟨trace, journal, List.filter_eq_self.mpr all⟩

end Leaves

/-- These moves, in this order, lie between two sessions, and no others. -/
def Makes (moves : List Move) (before after : Session) : Prop :=
  ∃ new, after.journal = before.journal ++ new ∧
    new.filter Happening.isOutside = moves.flatMap Move.trace

namespace Makes

variable {moves more : List Move} {before middle after : Session}

theorem refl (session : Session) : Makes [] session session :=
  Leaves.refl session

theorem trans (first : Makes moves before middle) (rest : Makes more middle after) :
    Makes (moves ++ more) before after := by
  unfold Makes
  rw [List.flatMap_append]
  exact Leaves.trans first rest

/-- Talk without requests makes no move. -/
theorem of_talk (talk : Extends noRequest before after) : Makes [] before after := by
  obtain ⟨new, journal, all⟩ := talk.journal
  refine ⟨new, journal, List.filter_eq_nil_iff.mpr ?_⟩
  intro happening member
  have isTalk := all happening member
  cases happening with
  | noted | slept => simp [Happening.isOutside]
  | sent | confirmed | requested | answered | called | printed => exact isTalk.elim

theorem after_talk (talk : Extends noRequest before middle) (makes : Makes moves middle after) :
    Makes moves before after :=
  (of_talk talk).trans makes

theorem before_talk (makes : Makes moves before middle) (talk : Extends noRequest middle after) :
    Makes moves before after := by
  have both := makes.trans (of_talk talk)
  rwa [List.append_nil] at both

/-- One move that is written down at once. -/
theorem of_trace {move : Move} (journal : after.journal = before.journal ++ move.trace) :
    Makes [move] before after := by
  unfold Makes
  rw [List.flatMap_singleton]
  exact Leaves.of_journal journal Move.isOutside_of_mem_trace

end Makes

/-! ## Transactions -/

/-- A transaction on a ledger is one move, which succeeds if there is a receipt. -/
theorem Chain.transact_moves {before after : Session} {ledger : Ledger}
    {contract function : String} {args : List Arg} {value : Int} {gasLimit : Option Int}
    {outcome : Except Failure Receipt}
    (run : Runs (Chain.transact contract function args value gasLimit) before outcome after)
    (on : before.chain = .ledger ledger) :
    (∃ ledger', after.chain = .ledger ledger') ∧
      Makes [.call (recordOf ledger contract function args value) outcome.toOption]
        before after := by
  obtain ⟨ledger', -, rfl⟩ := Chain.transact_inv run on
  refine ⟨⟨ledger', rfl⟩, .of_trace ?_⟩
  cases outcome <;> rfl

/-! ## Requests -/

/-- The move that a request comes to, if any, with the outcome of its exchange. -/
inductive Exchanges (request : Http.Request) :
    Option Move → Except Failure Http.Response → Prop where
  | nowhere {failure : Failure} : Exchanges request none (.error failure)
  | answered (path : String) (response : Http.Response) :
      Exchanges request (some (.exchange request path (some response))) (.ok response)
  | unanswered (path : String) {failure : Failure} :
      Exchanges request (some (.exchange request path none)) (.error failure)

theorem Session.exchange_moves {request : Http.Request} {before after : Session}
    {outcome : Except Failure Http.Response}
    (run : Runs (exchange request) before outcome after) :
    ∃ move?, Makes move?.toList before after ∧ Exchanges request move? outcome := by
  cases Session.exchange_inv run with
  | nowhere noPath => exact ⟨none, .refl _, .nowhere⟩
  | answered hasPath plain => exact ⟨some (.exchange _ _ (some _)), .of_trace rfl, .answered _ _⟩
  | lost hasPath plain => exact ⟨some (.exchange _ _ none), .of_trace rfl, .unanswered _⟩
  | broken served => exact ⟨some (.exchange _ _ none), .of_trace rfl, .unanswered _⟩

namespace Exchanges

variable {request : Http.Request} {move? : Option Move} {outcome : Except Failure Http.Response}

theorem isRequest {fits : Http.Request → Prop} (exchanges : Exchanges request move? outcome)
    (fit : fits request) : ∀ move ∈ move?, move.IsRequest fits := by
  cases exchanges <;> simp [Move.IsRequest, fit]

end Exchanges

/-- What comes of a request that is sent to plain peers, with the response it had, if any. -/
inductive Replied (request : Http.Request) :
    Option Http.Response → Except Failure Http.Response → Prop where
  | answered (response : Http.Response) : Replied request (some response) (.ok response)
  | lost (reason : String) :
      Replied request none (.error (.transport request.method request.url reason none))

/-- Plain peers answer a request that has a path, or do not, and stay plain. -/
theorem Session.exchange_replied {request : Http.Request} {path : String}
    {before after : Session} {outcome : Except Failure Http.Response}
    (run : Runs (exchange request) before outcome after)
    (hasPath : Http.Location.path request.url = .ok path) (plain : before.peers.Plain) :
    after.peers.Plain ∧ ∃ reply,
      after.journal = before.journal ++ (Move.exchange request path reply).trace ∧
        Replied request reply outcome := by
  cases Session.exchange_inv run with
  | nowhere noPath => cases hasPath.symm.trans noPath
  | broken served => exact absurd plain served
  | answered isPath kept =>
    cases hasPath.symm.trans isPath
    exact ⟨kept plain, some _, rfl, .answered _⟩
  | lost isPath kept =>
    cases hasPath.symm.trans isPath
    exact ⟨kept plain, none, rfl, .lost _⟩

/-! ## Actions of one kind of request -/

/-- Every run of the action makes requests of one kind, and no other moves. -/
def Requests {α : Type} (fits : Http.Request → Prop) (action : Action α) : Prop :=
  ∀ ⦃before outcome after⦄, Runs action before outcome after →
    ∃ moves, Makes moves before after ∧ ∀ move ∈ moves, move.IsRequest fits

namespace Requests

variable {α β : Type} {fits : Http.Request → Prop}

/-- Talk without requests makes no request of any kind. -/
theorem of_quiet {action : Action α} (quiet : Talks noRequest action) :
    Requests fits action := by
  intro before outcome after run
  exact ⟨[], .of_talk (quiet run), by simp⟩

theorem bind {action : Action α} {next : α → Action β} (first : Requests fits action)
    (rest : ∀ value, Requests fits (next value)) : Requests fits (action >>= next) := by
  intro before outcome after run
  rcases run.bind_inv with ⟨value, middle, firstRun, restRun⟩ | ⟨failure, firstRun, -⟩
  · obtain ⟨early, makes, allEarly⟩ := first firstRun
    obtain ⟨late, makes', allLate⟩ := rest value restRun
    refine ⟨early ++ late, makes.trans makes', ?_⟩
    intro move member
    rcases List.mem_append.mp member with inside | inside
    · exact allEarly move inside
    · exact allLate move inside
  · exact first firstRun

theorem ite {condition : Prop} [Decidable condition] {action other : Action α}
    (yes : Requests fits action) (no : Requests fits other) :
    Requests fits (if condition then action else other) := by
  split
  · exact yes
  · exact no

theorem exchange {request : Http.Request} (fit : fits request) :
    Requests fits (Session.exchange request) := by
  intro before outcome after run
  obtain ⟨move?, makes, exchanges⟩ := Session.exchange_moves run
  refine ⟨move?.toList, makes, ?_⟩
  intro move member
  exact exchanges.isRequest fit move (Option.mem_toList.mp member)

end Requests

end Provisioning
