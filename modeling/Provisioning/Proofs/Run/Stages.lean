import Provisioning.Run
import Provisioning.Proofs.Run.Account
import Provisioning.Proofs.Run.Authorization
import Provisioning.Proofs.Run.Publication

/-!
# The stages of a run

A run stops at the account, or at the signer, or gets past both; from then on it stops at the
name or at a body, or comes to what publishing the bodies does (`Provisioner.run_course`). All
of this is only talk with the naming authority and submissions (`Provisioner.run_inv`). What
is known of each stage is known of a run by taking it apart once, here.
-/

namespace Provisioning.Provisioner

open Session

variable {provisioner : Provisioner} {key : Option SigningKey} {text : Json}
variable {before after : Session}

/-- The requests of the last stages: questions to the naming authority, and submissions
of messages with made bodies. -/
def LateRequest (provisioner : Provisioner) (number : Int) (signer : DelegatedSigner)
    (request : Http.Request) : Prop :=
  provisioner.authority.IsAsked request ∨ ∃ body : Body, body.Made ∧
    Publication.Submits provisioner.hub number provisioner.settings.network.code signer body
      request

/-- How far a run gets. -/
inductive Staged (provisioner : Provisioner) (key : Option SigningKey)
    (before after : Session) : Except Failure Provisioned → Prop where
  | atAccount {failure : Failure} (opens : Runs provisioner.opening before (.error failure) after) :
      Staged provisioner key before after (.error failure)
  | atSigner {failure : Failure} {number : Int} {opened : Session}
      (opens : Runs provisioner.opening before (.ok number) opened)
      (signer : Runs (Authorization.ensure provisioner.settings provisioner.custody
        provisioner.hub (.int number) provisioner.custody.address key) opened (.error failure)
        after) :
      Staged provisioner key before after (.error failure)
  | past {outcome : Except Failure Provisioned} {number : Int} {taken : DelegatedSigner}
      {opened signed : Session} (opens : Runs provisioner.opening before (.ok number) opened)
      (signer : Runs (Authorization.ensure provisioner.settings provisioner.custody
        provisioner.hub (.int number) provisioner.custody.address key) opened (.ok taken) signed)
      (late : Extends (provisioner.LateRequest number taken) { signed with kept := some taken }
        after) :
      Staged provisioner key before after outcome

/-- The first stage comes to what making sure of the owner's account does. -/
theorem opening_inv {ledger : Contract.Ledger} {outcome : Except Failure Int}
    (opens : Runs provisioner.opening before outcome after) (on : before.chain = .ledger ledger)
    (own : Text.lower provisioner.custody.address = Text.lower ledger.address) :
    Account.Ensured ledger provisioner.custody.address before after outcome :=
  (Account.ensure_inv opens.note_bind on own).after_talk (.noted _ _ _ _ _)

theorem bodies_made {name text : Json} {made : List Body} (isMade : bodies name text = .ok made) :
    ∀ body ∈ made, body.Made := by
  obtain ⟨profile, isProfile, isMade⟩ := bind_ok_inv isMade
  obtain ⟨post, isPost, isMade⟩ := bind_ok_inv isMade
  cases isMade
  intro body member
  simp only [List.mem_cons, List.not_mem_nil, or_false] at member
  rcases member with rfl | rfl
  · exact .profile _ _ isProfile
  · -- Only texts are accepted.
    obtain ⟨plain, isText, -⟩ := bind_ok_inv isPost
    cases text with
    | str s => exact .post s [] [] [] none isPost
    | null | bool | int | float | arr | obj => cases isText

theorem talks_publishAll (number : Int) (signer : DelegatedSigner) :
    ∀ bodies : List Body, (∀ body ∈ bodies, body.Made) →
      Talks (provisioner.LateRequest number signer)
        (provisioner.publishAll (.int number) signer bodies)
  | [], _ => .pure _
  | body :: rest, made => by
    have publishes : Talks (provisioner.LateRequest number signer)
        (Publication.publish provisioner.hub body (.int number)
          (.int provisioner.settings.network.code) signer .null) :=
      (Publication.talks_publish _ body number _ signer).mono fun _ submits =>
        .inr ⟨body, made body List.mem_cons_self, submits⟩
    refine .bind publishes fun first => .bind ?_ fun others => .pure _
    exact talks_publishAll number signer rest fun body member =>
      made body (List.mem_cons_of_mem _ member)

/-! ### Taking a run apart -/

/-- What comes of a run behind the signer: it stops at the name or at a body, or it comes to
what publishing the bodies does. -/
inductive Late (provisioner : Provisioner) (text : Json) (number : Int) (taken : DelegatedSigner)
    (signed after : Session) : Except Failure Provisioned → Prop where
  | atName {failure : Failure}
      (names : Runs (provisioner.authority.ensure provisioner.custody (.int number)
        provisioner.custody.address) { signed with kept := some taken } (.error failure) after) :
      Late provisioner text number taken signed after (.error failure)
  | atBodies {name : Json} {fault : Fault}
      (names : Runs (provisioner.authority.ensure provisioner.custody (.int number)
        provisioner.custody.address) { signed with kept := some taken } (.ok name) after)
      (isFault : bodies name text = .error fault) :
      Late provisioner text number taken signed after (.error (bodyFailure (.int number) fault))
  | publishing {name : Json} {made : List Body} {named published : Session}
      {outcome : Except Failure (List Publication)}
      (names : Runs (provisioner.authority.ensure provisioner.custody (.int number)
        provisioner.custody.address) { signed with kept := some taken } (.ok name) named)
      (isMade : bodies name text = .ok made)
      (publishes : Runs (provisioner.publishAll (.int number) taken made) named outcome published)
      (noted : Extends noRequest published after) :
      Late provisioner text number taken signed after
        (outcome.map (⟨number, provisioner.custody.address, taken, name, ·⟩))

/-- What comes of a run, stage by stage. -/
inductive Course (provisioner : Provisioner) (key : Option SigningKey) (text : Json)
    (before after : Session) : Except Failure Provisioned → Prop where
  | atAccount {failure : Failure} (opens : Runs provisioner.opening before (.error failure) after) :
      Course provisioner key text before after (.error failure)
  | atSigner {failure : Failure} {number : Int} {opened : Session}
      (opens : Runs provisioner.opening before (.ok number) opened)
      (signs : Runs (Authorization.ensure provisioner.settings provisioner.custody
        provisioner.hub (.int number) provisioner.custody.address key) opened (.error failure)
        after) :
      Course provisioner key text before after (.error failure)
  | past {outcome : Except Failure Provisioned} {number : Int} {taken : DelegatedSigner}
      {opened signed : Session} (opens : Runs provisioner.opening before (.ok number) opened)
      (signs : Runs (Authorization.ensure provisioner.settings provisioner.custody
        provisioner.hub (.int number) provisioner.custody.address key) opened (.ok taken) signed)
      (late : provisioner.Late text number taken signed after outcome) :
      Course provisioner key text before after outcome

theorem run_course {outcome : Except Failure Provisioned}
    (ran : Runs (provisioner.run key text) before outcome after) :
    provisioner.Course key text before after outcome := by
  rcases ran.bind_inv.symm with ⟨failure, opens, rfl⟩ | ⟨number, opened, opens, rest⟩
  · exact .atAccount opens
  rcases rest.bind_inv.symm with ⟨failure, signs, rfl⟩ | ⟨taken, signed, signs, rest⟩
  · exact .atSigner opens signs
  refine .past opens signs ?_
  rcases (Runs.modify_bind rest).bind_inv.symm with
    ⟨failure, names, rfl⟩ | ⟨name, named, names, rest⟩
  · exact .atName names
  cases isMade : bodies name text with
  | error fault =>
    rw [isMade] at rest
    obtain ⟨rfl, rfl⟩ := Runs.throw_bind rest
    exact .atBodies names isMade
  | ok made =>
    rw [isMade] at rest
    rcases Runs.bind_inv (Runs.pure_bind rest) with
      ⟨publications, published, publishes, rest⟩ | ⟨failure, publishes, rfl⟩
    · obtain ⟨rfl, rfl⟩ := rest.note_bind.pure_inv
      exact .publishing names isMade publishes (.noted _ _ _ _ _)
    · exact .publishing names isMade publishes (.refl _ _)

/-- Behind the signer nothing is done but talk with the authority and submissions. -/
theorem Late.extends {number : Int} {taken : DelegatedSigner} {signed : Session}
    {outcome : Except Failure Provisioned}
    (late : provisioner.Late text number taken signed after outcome) :
    Extends (provisioner.LateRequest number taken) { signed with kept := some taken } after := by
  have naming : Talks (provisioner.LateRequest number taken) (provisioner.authority.ensure
      provisioner.custody (.int number) provisioner.custody.address) :=
    (provisioner.authority.talks_ensure _ _ _).mono fun _ => .inl
  cases late with
  | atName names => exact naming names
  | atBodies names isFault => exact naming names
  | publishing names isMade publishes noted =>
    have publishing := talks_publishAll number taken _ (bodies_made isMade) publishes
    exact ((naming names).trans publishing).trans (noted.mono fun _ => False.elim)

/-- A run stops at the account, stops at the signer, or gets past both. -/
theorem run_inv {outcome : Except Failure Provisioned}
    (ran : Runs (provisioner.run key text) before outcome after) :
    Staged provisioner key before after outcome := by
  cases run_course ran with
  | atAccount opens => exact .atAccount opens
  | atSigner opens signs => exact .atSigner opens signs
  | past opens signs late => exact .past opens signs late.extends

end Provisioning.Provisioner
