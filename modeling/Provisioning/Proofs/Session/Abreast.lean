import Mathlib.Data.List.Forall2
import Provisioning.Proofs.Session.Chain
import Provisioning.Proofs.Session.Exchange

/-!
# Two runs side by side

Two runs of a session may differ in the header by which a request shows who asks. What is
left of a request without that header is its veiled form, and two requests are twins if
they are the same when veiled, and only requests that may show who asks do.
`Agree may action action'` says that from sessions which differ at most in their journals,
two actions come to the same outcome, to such sessions again, and to journals that go on
with twins. No action reads the journal, so agreement is kept by composition
(`Agree.bind`, `Agree.tryCatch`). No server looks at the headers of a request, so twins are
answered alike (`Agree.exchange`); this is the only place where two runs do not do the same.
-/

namespace Provisioning

open Session

/-! ## Requests without who asks -/

namespace Http.Request

/-- The request shows who asks. -/
def ShowsWho (request : Request) : Prop :=
  ∃ header ∈ request.headers, header.1 = "Authorization"

instance (request : Request) : Decidable request.ShowsWho :=
  inferInstanceAs (Decidable (∃ header ∈ request.headers, header.1 = "Authorization"))

/-- The request without the header that shows who asks. -/
def veiled (request : Request) : Request :=
  { request with headers := request.headers.filter fun header => header.1 != "Authorization" }

/-- The requests differ at most in who they show to ask, and show it only if they may. -/
structure Twin (may : Request → Prop) (first second : Request) : Prop where
  veiled : first.veiled = second.veiled
  first : first.ShowsWho → may first
  second : second.ShowsWho → may second

/-- A request that shows nobody is a twin of itself. -/
theorem Twin.refl {may : Request → Prop} {request : Request} (shows : ¬request.ShowsWho) :
    Twin may request request :=
  ⟨rfl, fun who => absurd who shows, fun who => absurd who shows⟩

theorem Twin.symm {may : Request → Prop} {first second : Request}
    (twin : Twin may first second) : Twin may second first :=
  ⟨twin.veiled.symm, twin.second, twin.first⟩

/-- Twins have all but their headers in common. -/
theorem Twin.eq_with {may : Request → Prop} {first second : Request}
    (twin : Twin may first second) : ∃ headers, second = { first with headers } := by
  obtain ⟨method, url, params, headers, body⟩ := first
  obtain ⟨method', url', params', headers', body'⟩ := second
  have veiled := twin.veiled
  simp only [Request.veiled, mk.injEq] at veiled
  obtain ⟨rfl, rfl, rfl, -, rfl⟩ := veiled
  exact ⟨headers', rfl⟩

end Http.Request

namespace Happening

/-- A happening without the header that shows who asks. -/
def veiled : Happening → Happening
  | .requested request path => .requested request.veiled path
  | .answered request response => .answered request.veiled response
  | other => other

/-- The request that a happening tells of. -/
def request? : Happening → Option Http.Request
  | .requested request _ | .answered request _ => some request
  | .noted .. | .slept _ | .sent _ | .confirmed .. | .called .. | .printed _ => none

/-- Two happenings tell of twins in the same way, or are the same and tell of no request. -/
inductive Twin (may : Http.Request → Prop) : Happening → Happening → Prop where
  | requested {first second : Http.Request} (path : String)
      (twin : Http.Request.Twin may first second) :
      Twin may (.requested first path) (.requested second path)
  | answered {first second : Http.Request} (response : Http.Response)
      (twin : Http.Request.Twin may first second) :
      Twin may (.answered first response) (.answered second response)
  | same {happening : Happening} (none : happening.request? = none) :
      Twin may happening happening

namespace Twin

variable {may : Http.Request → Prop} {first second : Happening}

theorem veiled (twin : Twin may first second) : first.veiled = second.veiled := by
  cases twin with
  | requested path twin => rw [Happening.veiled, Happening.veiled, twin.veiled]
  | answered response twin => rw [Happening.veiled, Happening.veiled, twin.veiled]
  | same none => rfl

theorem first_may (twin : Twin may first second) :
    ∀ request ∈ first.request?, request.ShowsWho → may request := by
  cases twin with
  | requested path twin => rintro request ⟨rfl⟩ shows; exact twin.first shows
  | answered response twin => rintro request ⟨rfl⟩ shows; exact twin.first shows
  | same none => simp [none]

theorem symm (twin : Twin may first second) : Twin may second first := by
  cases twin with
  | requested path twin => exact .requested path twin.symm
  | answered response twin => exact .answered response twin.symm
  | same none => exact .same none

end Twin

end Happening

/-- What a session is to those who do not see who asks. -/
def Session.veiled (session : Session) : Session :=
  { session with journal := session.journal.map Happening.veiled }

/-! ## Sessions and journals side by side -/

/-- The sessions differ at most in their journals, and their chain is a ledger. -/
structure Session.Level (first second : Session) : Prop where
  rest : second = { first with journal := second.journal }
  ledger : ∃ ledger, first.chain = .ledger ledger

/-- Two journals go on with twins. -/
def Abreast (may : Http.Request → Prop) (before before' after after' : Session) : Prop :=
  ∃ new new', after.journal = before.journal ++ new ∧ after'.journal = before'.journal ++ new' ∧
    List.Forall₂ (Happening.Twin may) new new'

namespace Abreast

variable {may : Http.Request → Prop} {before before' middle middle' after after' : Session}

theorem of_eq (same : after.journal = before.journal) (same' : after'.journal = before'.journal) :
    Abreast may before before' after after' :=
  ⟨[], [], by simp [same], by simp [same'], .nil⟩

theorem trans (early : Abreast may before before' middle middle')
    (late : Abreast may middle middle' after after') :
    Abreast may before before' after after' := by
  obtain ⟨new, new', journal, journal', twins⟩ := early
  obtain ⟨more, more', journal₁, journal₁', twins'⟩ := late
  refine ⟨new ++ more, new' ++ more', ?_, ?_, List.rel_append twins twins'⟩
  · rw [journal₁, journal, List.append_assoc]
  · rw [journal₁', journal', List.append_assoc]

theorem symm (abreast : Abreast may before before' after after') :
    Abreast may before' before after' after := by
  obtain ⟨new, new', journal, journal', twins⟩ := abreast
  exact ⟨new', new, journal', journal, (twins.imp fun _ _ => Happening.Twin.symm).flip⟩

/-- Journals that were the same are the same again, when veiled. -/
theorem veiled {before : Session} (abreast : Abreast may before before after after') :
    after'.journal.map Happening.veiled = after.journal.map Happening.veiled := by
  obtain ⟨new, new', journal, journal', twins⟩ := abreast
  rw [journal, journal', List.map_append, List.map_append]
  congr 1
  clear journal journal'
  induction twins with
  | nil => rfl
  | cons twin _ ih => rw [List.map_cons, List.map_cons, twin.veiled, ih]

/-- Only requests that may show who asks do so. -/
theorem first_may (abreast : Abreast may before before' after after') :
    Grows (fun happening => ∀ request ∈ happening.request?, request.ShowsWho → may request)
      before after := by
  obtain ⟨new, new', journal, -, twins⟩ := abreast
  refine ⟨new, journal, ?_⟩
  clear journal
  induction twins with
  | nil => simp
  | cons twin _ ih => exact List.forall_mem_cons.mpr ⟨twin.first_may, ih⟩

end Abreast

/-- No simulated service looks at the headers of a request. -/
theorem Peers.serve_with (peers : Peers) (keys : List Contract.KeyEntry)
    (service : Service) (request : Http.Request) (headers : List (String × String)) :
    peers.serve keys service { request with headers } = peers.serve keys service request := by
  cases service <;> rfl

/-! ## Agreement -/

/-- From sessions that differ at most in their journals, both actions come to the same
outcome and to such sessions again, and write down twins. -/
def Agree {α : Type} (may : Http.Request → Prop) (action action' : Action α) : Prop :=
  ∀ ⦃before before' outcome outcome' after after'⦄, before.Level before' →
    Runs action before outcome after → Runs action' before' outcome' after' →
    outcome' = outcome ∧ after.Level after' ∧ Abreast may before before' after after'

namespace Agree

variable {α β : Type} {may : Http.Request → Prop} {action action' : Action α}
variable {next next' : α → Action β}

/-! ### Composition -/

theorem bind (first : Agree may action action') (rest : ∀ value, Agree may (next value) (next' value)) :
    Agree may (action >>= next) (action' >>= next') := by
  intro before before' outcome outcome' after after' level run run'
  rcases run.bind_inv with ⟨value, middle, ran, more⟩ | ⟨failure, failed, rfl⟩ <;>
    rcases run'.bind_inv with ⟨value', middle', ran', more'⟩ | ⟨failure', failed', rfl⟩
  · obtain ⟨same, levelled, early⟩ := first level ran ran'
    cases same
    obtain ⟨same, done, late⟩ := rest value levelled more more'
    exact ⟨same, done, early.trans late⟩
  · cases (first level ran failed').1
  · cases (first level failed ran').1
  · obtain ⟨same, done⟩ := first level failed failed'
    cases same
    exact ⟨rfl, done⟩

theorem tryCatch {handler handler' : Failure → Action α} (first : Agree may action action')
    (handles : ∀ failure, Agree may (handler failure) (handler' failure)) :
    Agree may (tryCatch action handler) (tryCatch action' handler') := by
  intro before before' outcome outcome' after after' level run run'
  rcases run.tryCatch_inv with ⟨value, ran, rfl⟩ | ⟨failure, middle, failed, handled⟩ <;>
    rcases run'.tryCatch_inv with ⟨value', ran', rfl⟩ | ⟨failure', middle', failed', handled'⟩
  · exact first level ran ran'
  · cases (first level ran failed').1
  · cases (first level failed ran').1
  · obtain ⟨same, levelled, early⟩ := first level failed failed'
    cases same
    obtain ⟨same, done, late⟩ := handles failure levelled handled handled'
    exact ⟨same, done, early.trans late⟩

theorem ite {condition : Prop} [Decidable condition] {other other' : Action α}
    (yes : Agree may action action') (no : Agree may other other') :
    Agree may (if condition then action else other) (if condition then action' else other') := by
  split
  · exact yes
  · exact no

/-! ### Basic actions -/

theorem pure (value : α) : Agree may (Pure.pure value) (Pure.pure value) := by
  intro before before' outcome outcome' after after' level run run'
  obtain ⟨rfl, rfl⟩ := run.pure_inv
  obtain ⟨rfl, rfl⟩ := run'.pure_inv
  exact ⟨rfl, level, .of_eq rfl rfl⟩

theorem throw (failure : Failure) :
    Agree may (MonadExcept.throw failure : Action α) (MonadExcept.throw failure) := by
  intro before before' outcome outcome' after after' level run run'
  obtain ⟨rfl, rfl⟩ := run.throw_inv
  obtain ⟨rfl, rfl⟩ := run'.throw_inv
  exact ⟨rfl, level, .of_eq rfl rfl⟩

theorem require (value : Except Fault α) : Agree may (require value) (require value) := by
  cases value with
  | ok value => exact .pure value
  | error fault => exact .throw _

/-- Actions behind a guard. -/
theorem guard {condition : Prop} {_ : Decidable condition} {failure : Failure}
    {next next' : PUnit → Action β} (rest : Agree may (next ⟨⟩) (next' ⟨⟩)) :
    Agree may (if condition then MonadExcept.throw failure >>= next else next ⟨⟩)
      (if condition then MonadExcept.throw failure >>= next' else next' ⟨⟩) :=
  .ite (.bind (.throw failure) fun _ => rest) rest

/-- Sessions that differ in their journals are read alike where the journal is not read. -/
theorem get {next next' : Session → Action β}
    (rest : ∀ session journal, Agree may (next session) (next' { session with journal })) :
    Agree may (MonadState.get >>= next) (MonadState.get >>= next') := by
  intro before before' outcome outcome' after after' level run run'
  have run' := run'.get_bind
  rw [level.rest] at run'
  exact rest before before'.journal level run (level.rest ▸ run')

/-- A change that neither reads the journal nor writes into it. -/
theorem modify {change : Session → Session}
    (blind : ∀ session journal,
      change { session with journal } = { change session with journal })
    (chain : ∀ session, (change session).chain = session.chain) :
    Agree may (modify change) (modify change) := by
  intro before before' outcome outcome' after after' level run run'
  obtain ⟨rfl, rfl⟩ := run.modify_inv
  obtain ⟨rfl, rfl⟩ := run'.modify_inv
  have changed : change before' = { change before with journal := before'.journal } := by
    rw [← blind, ← level.rest]
  have same : change before = { change before with journal := before.journal } :=
    blind before before.journal
  have journal : (change before).journal = _ := congrArg Session.journal same
  refine ⟨rfl, ⟨?_, by simpa [chain] using level.ledger⟩, .of_eq journal ?_⟩
  · rw [changed]
  · rw [changed]

theorem record {happening happening' : Happening} (twin : Happening.Twin may happening happening') :
    Agree may (record happening) (record happening') := by
  intro before before' outcome outcome' after after' level run run'
  obtain ⟨rfl, rfl⟩ := run.modify_inv
  obtain ⟨rfl, rfl⟩ := run'.modify_inv
  refine ⟨rfl, ⟨?_, level.ledger⟩, [_], [_], rfl, rfl, .cons twin .nil⟩
  rw [level.rest]

theorem note (level : Level) (source : Source) (text : String) :
    Agree may (note level source text) (note level source text) :=
  .record (.same rfl)

theorem advance (seconds : Binary64) : Agree may (advance seconds) (advance seconds) :=
  .modify (fun _ _ => rfl) fun _ => rfl

theorem sleep (seconds : Binary64) : Agree may (sleep seconds) (sleep seconds) :=
  .bind (.record (.same rfl)) fun _ => .advance seconds

theorem unixTime : Agree may unixTime unixTime :=
  .get fun _ _ => .require _

theorem generateSigner : Agree may generateSigner generateSigner := by
  intro before before' outcome outcome' after after' level run run'
  have draws (session : Session) : Runs Session.generateSigner session
      (.ok (.ofSeed session.nextSeed.1 .unregistered)) session.nextSeed.2 := rfl
  obtain ⟨rfl, rfl⟩ := run.unique (draws before)
  obtain ⟨rfl, rfl⟩ := run'.unique (draws before')
  have fresh : before'.nextSeed =
      (before.nextSeed.1, { before.nextSeed.2 with journal := before'.journal }) := by
    rw [level.rest]
    unfold nextSeed
    cases before.seeds <;> rfl
  have kept : before.nextSeed.2.chain = before.chain ∧
      before.nextSeed.2.journal = before.journal := by
    unfold nextSeed
    cases before.seeds <;> exact ⟨rfl, rfl⟩
  rw [fresh]
  exact ⟨rfl, ⟨rfl, kept.1 ▸ level.ledger⟩, .of_eq kept.2 rfl⟩

/-! ### The chain -/

theorem read (contract function : String) (args : List Arg) :
    Agree may (Chain.read contract function args) (Chain.read contract function args) := by
  intro before before' outcome outcome' after after' level run run'
  obtain ⟨ledger, on⟩ := level.ledger
  have on' : before'.chain = .ledger ledger := by rw [level.rest]; exact on
  obtain ⟨rfl, rfl⟩ := Chain.read_inv run on
  obtain ⟨rfl, rfl⟩ := Chain.read_inv run' on'
  exact ⟨rfl, level, .of_eq rfl rfl⟩

theorem balanceOf (address : String) :
    Agree may (Chain.balanceOf address) (Chain.balanceOf address) := by
  intro before before' outcome outcome' after after' level run run'
  obtain ⟨ledger, on⟩ := level.ledger
  have on' : before'.chain = .ledger ledger := by rw [level.rest]; exact on
  obtain ⟨rfl, rfl⟩ := Chain.balanceOf_inv run on
  obtain ⟨rfl, rfl⟩ := Chain.balanceOf_inv run' on'
  exact ⟨rfl, level, .of_eq rfl rfl⟩

/-- A ledger does not know who asks. -/
theorem transact (contract function : String) (args : List Arg) (value : Int)
    (gasLimit : Option Int) :
    Agree may (Chain.transact contract function args value gasLimit)
      (Chain.transact contract function args value gasLimit) := by
  intro before before' outcome outcome' after after' level run run'
  obtain ⟨ledger, on⟩ := level.ledger
  have on' : before'.chain = .ledger ledger := by rw [level.rest]; exact on
  have clock : before'.clock = before.clock := by rw [level.rest]
  generalize called :
    ledger.transact before.clock.unix contract function args value = result
  obtain ⟨result, ledger'⟩ := result
  obtain ⟨rfl, rfl⟩ := Chain.transact_called run on called
  obtain ⟨rfl, rfl⟩ := Chain.transact_called run' on' (clock ▸ called)
  refine ⟨rfl, ⟨?_, ledger', rfl⟩, _, _, rfl, rfl, ?_⟩
  · rw [level.rest]
    rfl
  · refine List.forall₂_same.mpr fun happening member => .same ?_
    cases outcome' <;> simp only [Chain.happeningsOf, List.mem_cons, List.not_mem_nil, or_false] at member
    · rw [member]; rfl
    · rcases member with rfl | rfl <;> rfl

theorem decodeEvents (contract name : String) (receipt : Contract.Receipt) :
    Agree may (Chain.decodeEvents contract name receipt)
      (Chain.decodeEvents contract name receipt) := by
  unfold Chain.decodeEvents
  split
  · exact .pure _
  · exact .bind (.require _) fun _ => .require _

/-! ### Exchanges -/

theorem forM_advance (delays : List Binary64) :
    Agree may (delays.forM Session.advance) (delays.forM Session.advance) := by
  induction delays with
  | nil => exact .pure _
  | cons delay rest ih => exact .bind (.advance delay) fun _ => ih

theorem takeAnswer (method path : String) :
    Agree may (takeAnswer method path) (takeAnswer method path) := by
  refine .get fun session journal => .bind (.modify (fun _ _ => rfl) fun _ => rfl) fun _ => ?_
  exact .bind (.forM_advance _) fun _ => .pure _

theorem respond {request request' : Http.Request} (twin : Http.Request.Twin may request request')
    (reply : Reply) : Agree may (respond request reply) (respond request' reply) := by
  obtain ⟨headers, rfl⟩ := twin.eq_with
  cases reply with
  | respond response => exact .pure _
  | lost reason => exact .throw _
  | serve service =>
    refine .get fun session journal => ?_
    rw [Peers.serve_with]
    exact .bind (.require _) fun _ => .bind (.modify (fun _ _ => rfl) fun _ => rfl) fun _ => .pure _

/-- Twins are sent to the same place, and answered alike. -/
theorem exchange {request request' : Http.Request}
    (twin : Http.Request.Twin may request request') :
    Agree may (exchange request) (exchange request') := by
  obtain ⟨headers, isWith⟩ := twin.eq_with
  have method : request'.method = request.method := by rw [isWith]
  have url : request'.url = request.url := by rw [isWith]
  unfold Session.exchange
  rw [method, url]
  refine .bind (.require _) fun path => .bind (.record (.requested path twin)) fun _ => ?_
  refine .bind (.takeAnswer _ _) fun reply => .bind (.respond twin reply) fun response => ?_
  exact .bind (.record (.answered response twin)) fun _ => .pure _

end Agree

end Provisioning
