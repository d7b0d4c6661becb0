import Provisioning.Hub
import Provisioning.Proofs.Except

/-!
# Listings that can be read

A hub lists the keys of an account as it likes. `Hub.ReadableDocument` describes the
documents from which keys can be read, or which hold none, and no other document is read
(`Hub.listedKeys_ok_iff`). A response can be read if it reports an error, or its body holds
such a document (`Hub.Readable`).
-/

namespace Provisioning.Hub

/-- No key at all, or the text of one. -/
def ReadableKey (key : Json) : Prop :=
  key.truthy = true → ∃ text bytes, key = .str text ∧ keyBytes (.str text) = .ok bytes

/-- The body of an event, if there is one, is an object with a key that can be read. -/
def ReadableEvent : Json → Prop
  | .obj fields =>
    ((Json.find? "signerEventBody" fields).getD .null).truthy = true →
      ∃ members, (Json.find? "signerEventBody" fields).getD .null = .obj members ∧
        ReadableKey ((Json.find? "key" members).getD .null)
  | _ => True

/-- Every event that a document lists can be read. -/
def ReadableDocument (document : Json) : Prop :=
  ∀ events, document.get? "events" = some (.arr events) → ∀ event ∈ events, ReadableEvent event

/-- A response that reports an error, or whose body can be read. -/
def Readable (response : Http.Response) : Prop :=
  response.ok = true → ∃ document, response.document = .ok document ∧ ReadableDocument document

theorem keyBytes_ok_iff (key : Json) :
    (∃ bytes, keyBytes key = .ok bytes) ↔
      ∃ text bytes, key = .str text ∧ keyBytes (.str text) = .ok bytes := by
  constructor
  · intro read
    obtain ⟨bytes, isOk⟩ := read
    cases key with
    | str text => exact ⟨text, bytes, rfl, isOk⟩
    | null | bool | int | float | arr | obj => cases isOk
  · intro given
    obtain ⟨text, bytes, rfl, isOk⟩ := given
    exact ⟨bytes, isOk⟩

theorem givenKey_ok_iff (key : Json) :
    (∃ found, (if key.truthy then return some (← keyBytes key) else return none :
      Except Fault (Option Bytes)) = .ok found) ↔ ReadableKey key := by
  unfold ReadableKey
  cases given : key.truthy with
  | false => simp [pure, Except.pure]
  | true =>
    rw [← keyBytes_ok_iff]
    cases keyBytes key with
    | ok bytes => simp [pure, Except.pure, bind, Except.bind]
    | error fault => simp [bind, Except.bind]

theorem eventKey?_ok_iff (event : Json) :
    (∃ found, eventKey? event = .ok found) ↔ ReadableEvent event := by
  cases event with
  | obj fields =>
    unfold eventKey? ReadableEvent
    simp only
    generalize (Json.find? "signerEventBody" fields).getD .null = body
    cases given : body.truthy with
    | false => simp [pure, Except.pure, bind, Except.bind, Json.truthy]
    | true =>
      cases body with
      | obj members =>
        have read := givenKey_ok_iff ((Json.find? "key" members).getD .null)
        simpa [Json.fieldD, bind, Except.bind] using read
      | null | bool | int | float | str | arr => simp [Json.fieldD, bind, Except.bind]
  | null | bool | int | float | str | arr => simp [eventKey?, ReadableEvent]

theorem eventKeys_ok_iff (events : List Json) :
    (∃ keys, eventKeys events = .ok keys) ↔ ∀ event ∈ events, ReadableEvent event := by
  induction events with
  | nil => simp [eventKeys]
  | cons event rest ih =>
    rw [List.forall_mem_cons, ← eventKey?_ok_iff, ← ih, eventKeys]
    constructor
    · intro read
      obtain ⟨keys, isOk⟩ := read
      obtain ⟨key, isKey, isOk⟩ := bind_ok_inv isOk
      obtain ⟨others, isOthers, -⟩ := bind_ok_inv isOk
      exact ⟨⟨key, isKey⟩, others, isOthers⟩
    · intro read
      obtain ⟨⟨key, isKey⟩, others, isOthers⟩ := read
      exact ⟨key.toList ++ others, by rw [isKey, isOthers]; rfl⟩

/-- Keys are read from a document exactly if it can be read. -/
theorem listedKeys_ok_iff (document : Json) :
    (∃ keys, listedKeys document = .ok keys) ↔ ReadableDocument document := by
  unfold listedKeys ReadableDocument
  split
  · next events isEvents =>
    rw [eventKeys_ok_iff]
    constructor
    · intro all events' isEvents'
      cases isEvents.symm.trans isEvents'
      exact all
    · intro all
      exact all events isEvents
  · next other =>
    refine ⟨fun _ events isEvents => absurd isEvents (other events), fun _ => ⟨[], rfl⟩⟩

end Provisioning.Hub
