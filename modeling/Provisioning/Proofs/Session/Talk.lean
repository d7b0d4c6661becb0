import Provisioning.Proofs.Session.Runs

/-!
# Actions that only talk

Most of a session is talk: notes, waits, and exchanges with the peers. Such an action
leaves the chain and the kept signer alone, makes no seeds, and adds nothing else to the
journal.
`Talks fits action` says so of an action whose requests all fit a description; it is
kept by composition (`Talks.bind`, `Talks.tryCatch`) and holds of an exchange that fits
(`Talks.exchange`).
-/

namespace Provisioning

open Session

/-- A note, a wait, or an exchange of a request that fits. -/
def Happening.IsTalk (fits : Http.Request → Prop) : Happening → Prop
  | .noted .. | .slept _ => True
  | .requested request _ | .answered request _ => fits request
  | _ => False

/-- The journal goes on with happenings of a kind. -/
def Grows (allowed : Happening → Prop) (before after : Session) : Prop :=
  ∃ new, after.journal = before.journal ++ new ∧ ∀ happening ∈ new, allowed happening

namespace Grows

variable {allowed others : Happening → Prop} {before middle after : Session}

theorem refl (allowed : Happening → Prop) (session : Session) : Grows allowed session session :=
  ⟨[], by simp, by simp⟩

theorem trans (first : Grows allowed before middle) (rest : Grows allowed middle after) :
    Grows allowed before after := by
  obtain ⟨early, journal, allEarly⟩ := first
  obtain ⟨late, journal', allLate⟩ := rest
  refine ⟨early ++ late, by rw [journal', journal, List.append_assoc], ?_⟩
  intro happening member
  rcases List.mem_append.mp member with inside | inside
  · exact allEarly happening inside
  · exact allLate happening inside

theorem mono (grows : Grows allowed before after)
    (weaker : ∀ happening, allowed happening → others happening) :
    Grows others before after := by
  obtain ⟨new, journal, all⟩ := grows
  exact ⟨new, journal, fun happening member => weaker happening (all happening member)⟩

end Grows

/-- Nothing but talk lies between two sessions. -/
structure Extends (fits : Http.Request → Prop) (before after : Session) : Prop where
  chain : after.chain = before.chain
  kept : after.kept = before.kept
  /-- Seeds are only used up. -/
  seeds : after.seeds ⊆ before.seeds
  /-- Only requests change the peers. -/
  peers : (∀ request, ¬fits request) → after.peers = before.peers
  journal : Grows (Happening.IsTalk fits) before after

namespace Extends

variable {fits others : Http.Request → Prop} {before middle after : Session}

theorem refl (fits : Http.Request → Prop) (session : Session) : Extends fits session session :=
  ⟨rfl, rfl, List.Subset.refl _, fun _ => rfl, .refl _ session⟩

theorem trans (first : Extends fits before middle) (rest : Extends fits middle after) :
    Extends fits before after :=
  ⟨rest.chain.trans first.chain, rest.kept.trans first.kept, List.Subset.trans rest.seeds first.seeds,
    fun none => (rest.peers none).trans (first.peers none), first.journal.trans rest.journal⟩

theorem mono (talk : Extends fits before after)
    (weaker : ∀ request, fits request → others request) : Extends others before after := by
  refine ⟨talk.chain, talk.kept, talk.seeds,
    fun none => talk.peers fun request fit => none request (weaker request fit),
    talk.journal.mono ?_⟩
  intro happening isTalk
  cases happening with
  | noted | slept => trivial
  | requested | answered => exact weaker _ isTalk
  | sent | confirmed | called | printed => exact isTalk.elim

/-- A change of the clock or the seeds. -/
theorem of_journal_eq (chain : after.chain = before.chain) (kept : after.kept = before.kept)
    (seeds : after.seeds ⊆ before.seeds) (peers : after.peers = before.peers)
    (journal : after.journal = before.journal) : Extends fits before after :=
  ⟨chain, kept, seeds, fun _ => peers, [], by simpa using journal, by simp⟩

theorem noted (fits : Http.Request → Prop) (session : Session) (level : Level)
    (source : Source) (text : String) :
    Extends fits session
      { session with journal := session.journal ++ [.noted level source text] } :=
  ⟨rfl, rfl, List.Subset.refl _, fun _ => rfl, _, rfl, by simp [Happening.IsTalk]⟩

theorem of_request {request : Http.Request} {new : List Happening} {clock : Clock}
    {peers : Peers} (fit : fits request) (all : ∀ happening ∈ new, happening.IsTalk fits) :
    Extends fits before { before with clock, peers, journal := before.journal ++ new } :=
  ⟨rfl, rfl, List.Subset.refl _, fun none => absurd fit (none request), new, rfl, all⟩

end Extends

/-- Every run of the action is nothing but talk. -/
def Talks {α : Type} (fits : Http.Request → Prop) (action : Action α) : Prop :=
  ∀ ⦃before outcome after⦄, Runs action before outcome after → Extends fits before after

/-- No request at all. -/
def noRequest (_ : Http.Request) : Prop := False

namespace Talks

variable {α β : Type} {fits others : Http.Request → Prop}

theorem mono {action : Action α} (talks : Talks fits action)
    (weaker : ∀ request, fits request → others request) : Talks others action :=
  fun _ _ _ run => (talks run).mono weaker

theorem pure (value : α) : Talks fits (pure value) := by
  intro before outcome after run
  obtain ⟨-, rfl⟩ := run.pure_inv
  exact .refl fits _

theorem throw (failure : Failure) : Talks fits (throw failure : Action α) := by
  intro before outcome after run
  obtain ⟨-, rfl⟩ := run.throw_inv
  exact .refl fits _

theorem get : Talks fits get := by
  intro before outcome after run
  obtain ⟨-, rfl⟩ := run.get_inv
  exact .refl fits _

theorem require (value : Except Fault α) : Talks fits (require value) := by
  intro before outcome after run
  obtain ⟨-, rfl⟩ := run.require_inv
  exact .refl fits _

theorem bind {action : Action α} {next : α → Action β} (first : Talks fits action)
    (rest : ∀ value, Talks fits (next value)) : Talks fits (action >>= next) := by
  intro before outcome after run
  rcases run.bind_inv with ⟨value, middle, firstRun, restRun⟩ | ⟨failure, firstRun, -⟩
  · exact (first firstRun).trans (rest value restRun)
  · exact first firstRun

theorem tryCatch {action : Action α} {handler : Failure → Action α} (first : Talks fits action)
    (handles : ∀ failure, Talks fits (handler failure)) :
    Talks fits (tryCatch action handler) := by
  intro before outcome after run
  rcases run.tryCatch_inv with ⟨value, firstRun, -⟩ | ⟨failure, middle, firstRun, handled⟩
  · exact first firstRun
  · exact (first firstRun).trans (handles failure handled)

theorem ite {condition : Prop} [Decidable condition] {action other : Action α}
    (yes : condition → Talks fits action) (no : ¬condition → Talks fits other) :
    Talks fits (if condition then action else other) := by
  split
  · next holds => exact yes holds
  · next fails => exact no fails

theorem record {happening : Happening} (isTalk : happening.IsTalk fits) :
    Talks fits (record happening) := by
  intro before outcome after run
  obtain ⟨-, rfl⟩ := run.modify_inv
  exact ⟨rfl, rfl, List.Subset.refl _, fun _ => rfl, [happening], rfl, by simpa using isTalk⟩

theorem note (level : Level) (source : Source) (text : String) :
    Talks fits (note level source text) :=
  record trivial

theorem advance (seconds : Binary64) : Talks fits (advance seconds) := by
  intro before outcome after run
  obtain ⟨-, rfl⟩ := run.modify_inv
  exact .of_journal_eq rfl rfl (List.Subset.refl _) rfl rfl

theorem sleep (seconds : Binary64) : Talks fits (sleep seconds) :=
  .bind (record trivial) fun _ => advance seconds

theorem unixTime : Talks fits unixTime :=
  .bind get fun _ => require _

end Talks

end Provisioning
