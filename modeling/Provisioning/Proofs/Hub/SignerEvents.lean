import Provisioning.Proofs.Ethereum.Address
import Provisioning.Proofs.Http.Response
import Provisioning.Proofs.Run.Settling
import Provisioning.Proofs.Session.Performs

/-!
# Listings of signer events

A hub lists events, of which some carry the key of a signer (`Hub.Carries`) and some say
nothing of a key (`Hub.Ignorable`). A key is written in digits of either case, with or without
`0x` in front (`Hub.Writes`). If every event of a listing is of one of the two kinds, the keys
that are had of it are those that its events carry, in their order and as often as they carry
them (`Hub.Lists`); so a poll sees a key exactly if some event carries it. Main statement:
`Hub.events_listed_in_order`.
-/

namespace Provisioning

/-! ## Digits of either case -/

namespace Hex

/-- Letters are blanks in neither case. -/
theorem isBlank_toLower (c : Char) : isBlank c.toLower = isBlank c := by
  have space : ' '.toNat = 32 := rfl
  rw [Bool.eq_iff_iff]
  simp only [isBlank, Bool.or_eq_true, Bool.and_eq_true, beq_iff_eq, decide_eq_true_eq,
    ← Char.toNat_inj, Address.toNat_toLower, space]
  split <;> omega

/-- Bytes are read from digits of either case. -/
theorem decodeFrom_map_toLower (position : Nat) (digits : List Char) :
    decodeFrom position (digits.map Char.toLower) = decodeFrom position digits := by
  fun_induction decodeFrom position digits with
  | case1 => rfl
  | case2 position c rest blank ih => simp [decodeFrom, isBlank_toLower, blank, ih]
  | case3 position c rest solid unread =>
    simp [decodeFrom, isBlank_toLower, solid, Address.value?_toLower, unread]
  | case4 position c solid high isHigh =>
    simp [decodeFrom, isBlank_toLower, solid, Address.value?_toLower, isHigh]
  | case5 position c solid high isHigh d tail unread =>
    simp [decodeFrom, isBlank_toLower, solid, Address.value?_toLower, isHigh, unread]
  | case6 position c solid high isHigh d tail low isLow ih =>
    simp [decodeFrom, isBlank_toLower, solid, Address.value?_toLower, isHigh, isLow, ih]

theorem decode_map_toLower (digits : List Char) :
    decode (digits.map Char.toLower) = decode digits := by
  have outside (c : Char) : 128 ≤ c.toLower.toNat ↔ 128 ≤ c.toNat := by
    rw [Address.toNat_toLower]
    split <;> omega
  have same : (digits.map Char.toLower).findIdx? (fun c => 128 ≤ c.toNat) =
      digits.findIdx? (fun c => 128 ≤ c.toNat) := by
    rw [List.findIdx?_map]
    exact congrArg (digits.findIdx? ·) (funext fun c => decide_eq_decide.mpr (outside c))
  rw [decode, decode, same, decodeFrom_map_toLower]

/-- The digits of bytes, each in either case. -/
def Spells (digits : List Char) (bytes : Bytes) : Prop :=
  digits.map Char.toLower = encodeChars bytes

theorem Spells.decode {digits : List Char} {bytes : Bytes} (spells : Spells digits bytes) :
    decode digits = .ok bytes := by
  have read := decode_encode bytes
  rwa [encode, String.toList_ofList, ← spells, decode_map_toLower] at read

/-- What stands behind a mark is no digit. -/
theorem Spells.unmarked {digits rest : List Char} {bytes : Bytes} (spells : Spells digits bytes) :
    digits ≠ '0' :: 'x' :: rest := by
  rintro rfl
  cases bytes with
  | nil => cases spells
  | cons byte others =>
    have bound : byte.toNat < 256 := byte.toNat_lt_size
    obtain ⟨-, isDigit, -⟩ : _ ∧ 'x' = digit (byte.toNat % 16) ∧ _ := by
      simpa [Spells, encodeChars] using spells
    have read := value?_digit (show byte.toNat % 16 < 16 by omega)
    rw [← isDigit] at read
    cases read

end Hex

namespace Hub

/-! ## Events -/

/-- The text writes the bytes in digits, with or without the mark `0x` in front of them. -/
def Writes (text : String) (bytes : Bytes) : Prop :=
  ∃ digits, Hex.Spells digits bytes ∧ (text.toList = digits ∨ text.toList = '0' :: 'x' :: digits)

/-- The body of the event is an object whose key is written in it, and not empty. -/
def Carries (event : Json) (key : Bytes) : Prop :=
  ∃ body text, event.get? "signerEventBody" = some (.obj body) ∧
    Json.find? "key" body = some (.str text) ∧ Writes text key ∧ key ≠ []

/-- The event says nothing of a key: it is no object, its body is missing or does not count, or
its body is an object whose key is missing or does not count. -/
inductive Ignorable : Json → Prop where
  | stray {event : Json} (notObject : ∀ fields, event ≠ .obj fields) : Ignorable event
  | bodiless {fields : List (String × Json)}
      (falsy : ∀ body ∈ Json.find? "signerEventBody" fields, body.truthy = false) :
      Ignorable (.obj fields)
  | keyless {fields body : List (String × Json)}
      (isBody : Json.find? "signerEventBody" fields = some (.obj body))
      (falsy : ∀ key ∈ Json.find? "key" body, key.truthy = false) : Ignorable (.obj fields)

/-- The keys that events carry, in the order of the events. -/
inductive Lists : List Json → List Bytes → Prop where
  | nil : Lists [] []
  | carried {event : Json} {rest : List Json} {key : Bytes} {keys : List Bytes}
      (carries : Carries event key) (others : Lists rest keys) :
      Lists (event :: rest) (key :: keys)
  | ignored {event : Json} {rest : List Json} {keys : List Bytes} (ignorable : Ignorable event)
      (others : Lists rest keys) : Lists (event :: rest) keys

variable {event : Json} {events : List Json} {key : Bytes} {keys : List Bytes}

theorem Writes.keyBytes {text : String} (writes : Writes text key) :
    keyBytes (.str text) = .ok key := by
  obtain ⟨digits, spells, bare | marked⟩ := writes
  · have unmarked {rest : List Char} : text.toList ≠ '0' :: 'x' :: rest := bare ▸ spells.unmarked
    have read : Hex.decode text.toList = .ok key := bare ▸ spells.decode
    simp only [Hub.keyBytes]
    split
    · next isRead =>
      cases isRead.symm.trans read
      rfl
    · next isError => cases isError.symm.trans read
  · simp only [Hub.keyBytes, marked, spells.decode]

/-- A text that writes some bytes is not empty. -/
theorem Writes.given {text : String} (writes : Writes text key) (nonempty : key ≠ []) :
    (Json.str text).truthy = true := by
  obtain ⟨digits, spells, isText⟩ := writes
  have some : text ≠ "" := by
    rintro rfl
    rcases isText with bare | marked
    · rw [← bare] at spells
      have none : 0 = (Hex.encodeChars key).length := congrArg List.length spells
      rw [Hex.length_encodeChars] at none
      exact nonempty (List.length_eq_zero_iff.mp (by omega))
    · cases marked
  simpa [Json.truthy] using some

theorem eventKey?_of_carries (carries : Carries event key) : eventKey? event = .ok (some key) := by
  obtain ⟨body, text, isBody, isKey, writes, nonempty⟩ := carries
  cases event with
  | obj fields =>
    have held : (Json.obj body).truthy = true := by
      cases body with
      | nil => cases isKey
      | cons => rfl
    have isBody : Json.find? "signerEventBody" fields = some (.obj body) := isBody
    simp [eventKey?, isBody, held, Json.fieldD, isKey, writes.given nonempty, writes.keyBytes,
      bind, Except.bind, pure, Except.pure]
  | null | bool | int | float | str | arr => cases isBody

/-- What may be missing counts as missing if it does not count. -/
theorem falsy_getD {value? : Option Json} (falsy : ∀ value ∈ value?, value.truthy = false) :
    (value?.getD .null).truthy = false := by
  cases value? with
  | none => rfl
  | some value => exact falsy value rfl

theorem eventKey?_of_ignorable (ignorable : Ignorable event) : eventKey? event = .ok none := by
  cases ignorable with
  | stray notObject =>
    cases event with
    | obj fields => exact absurd rfl (notObject fields)
    | null | bool | int | float | str | arr => rfl
  | bodiless falsy =>
    have nothing : Json.null.truthy = false := rfl
    simp [eventKey?, falsy_getD falsy, nothing, bind, Except.bind, pure, Except.pure]
  | keyless isBody falsy =>
    simp only [eventKey?, isBody, Option.getD_some]
    split
    · simp [Json.fieldD, falsy_getD falsy, bind, Except.bind, pure, Except.pure]
    · rfl

/-! ## Lists of events -/

/-- An event of either kind begins a list of keys, or is left out of it. -/
theorem exists_lists (each : ∀ event ∈ events, (∃ key, Carries event key) ∨ Ignorable event) :
    ∃ keys, Lists events keys := by
  induction events with
  | nil => exact ⟨[], .nil⟩
  | cons event rest ih =>
    obtain ⟨here, others⟩ := List.forall_mem_cons.mp each
    obtain ⟨keys, lists⟩ := ih others
    rcases here with ⟨key, carries⟩ | ignorable
    · exact ⟨key :: keys, .carried carries lists⟩
    · exact ⟨keys, .ignored ignorable lists⟩

theorem Lists.eventKeys (lists : Lists events keys) : eventKeys events = .ok keys := by
  induction lists with
  | nil => rfl
  | carried carries _ ih =>
    rw [Hub.eventKeys, eventKey?_of_carries carries, ih]
    rfl
  | ignored ignorable _ ih =>
    rw [Hub.eventKeys, eventKey?_of_ignorable ignorable, ih]
    rfl

theorem Lists.unique {others : List Bytes} (lists : Lists events keys)
    (lists' : Lists events others) : others = keys :=
  Except.ok.inj (lists'.eventKeys.symm.trans lists.eventKeys)

/-- Only events of the two kinds have a list of keys. -/
theorem Lists.each (lists : Lists events keys) :
    ∀ event ∈ events, (∃ key, Carries event key) ∨ Ignorable event := by
  induction lists with
  | nil => simp
  | carried carries _ ih => exact List.forall_mem_cons.mpr ⟨.inl ⟨_, carries⟩, ih⟩
  | ignored ignorable _ ih => exact List.forall_mem_cons.mpr ⟨.inr ignorable, ih⟩

/-- A key is listed exactly if some event carries it. -/
theorem Lists.mem_iff (lists : Lists events keys) :
    key ∈ keys ↔ ∃ event ∈ events, Carries event key := by
  induction lists with
  | nil => simp
  | @carried event rest found keys carries _ ih =>
    have own : Carries event key ↔ key = found := by
      constructor
      · intro other
        have same := (eventKey?_of_carries other).symm.trans (eventKey?_of_carries carries)
        exact Option.some.inj (Except.ok.inj same)
      · rintro rfl
        exact carries
    rw [List.mem_cons, ih, ← own]
    simp only [List.mem_cons, or_and_right, exists_or, exists_eq_left]
  | @ignored event rest keys ignorable _ ih =>
    have nothing : ¬Carries event key := by
      intro carries
      cases (eventKey?_of_ignorable ignorable).symm.trans (eventKey?_of_carries carries)
    rw [ih]
    simp only [List.mem_cons, or_and_right, exists_or, exists_eq_left, nothing, false_or]

/-! ## Answers to a listing -/

section Answers

variable {hub : Hub} {account document : Json} {response : Http.Response}
variable {before answered : Session}

variable (asked : Runs (Session.exchange (hub.listing account)) before (.ok response) answered)
  (isOk : response.ok = true) (isDocument : response.document = .ok document)
  (isEvents : document.get? "events" = some (.arr events))

include asked isOk isDocument isEvents

/-- The keys of an account are those that the answer lists. -/
theorem keysOf_answered (lists : Lists events keys) :
    Runs (hub.keysOf account) before (.ok keys) answered := by
  have status : response.status ≠ 404 := by
    intro missing
    simp [Http.Response.ok, missing] at isOk
  have isKeys : listedKeys document = .ok keys := by
    simp only [listedKeys, isEvents, lists.eventKeys]
  refine asked.bind ?_
  simp only [if_neg status, isOk, isDocument, Bool.not_true, Bool.false_eq_true, if_false]
  exact .bind rfl (isKeys ▸ rfl)

/-- A poll sees a listed key at once. Without retries it ends with the first listing. -/
theorem poll_answered (lists : Lists events keys) (key : Bytes)
    (timeout interval start : Binary64) :
    Runs (Authorization.poll hub account key timeout interval start 0) before
      (.ok (keys.contains key)) answered ∧
    (keys.contains key = true → ∀ retries, Runs
      (Authorization.poll hub account key timeout interval start retries) before (.ok true)
      answered) := by
  have listed := keysOf_answered asked isOk isDocument isEvents lists
  have once : Runs (Authorization.poll hub account key timeout interval start 0) before
      (.ok (keys.contains key)) answered := listed.bind rfl
  refine ⟨once, fun seen retries => ?_⟩
  cases retries with
  | zero => exact seen ▸ once
  | succ retries =>
    refine listed.bind ?_
    simp only [seen, if_true]
    rfl

/-- If each event of an answer carries a key or says nothing of one, the keys of the account are
those that its events carry, in their order and with their repetitions, and nothing fails. So
whoever looks for a key sees it exactly if some event carries it: a poll that asks once finds
out which, and any poll ends at once if one does. -/
theorem events_listed_in_order
    (each : ∀ event ∈ events, (∃ key, Carries event key) ∨ Ignorable event) :
    ∃ keys, (∀ others, Lists events others ↔ others = keys) ∧
      (∀ outcome after, Runs (hub.keysOf account) before outcome after ↔
        outcome = .ok keys ∧ after = answered) ∧
      ∀ key, (keys.contains key = true ↔ ∃ event ∈ events, Carries event key) ∧
        ∀ timeout interval start,
          Runs (Authorization.poll hub account key timeout interval start 0) before
            (.ok (keys.contains key)) answered ∧
          (keys.contains key = true → ∀ retries, Runs
            (Authorization.poll hub account key timeout interval start retries) before (.ok true)
            answered) := by
  obtain ⟨keys, lists⟩ := exists_lists each
  have listed := keysOf_answered asked isOk isDocument isEvents lists
  refine ⟨keys, fun others => ⟨lists.unique, ?_⟩, fun outcome after => ⟨fun run => ?_, ?_⟩,
    fun key => ⟨?_, poll_answered asked isOk isDocument isEvents lists key⟩⟩
  · rintro rfl
    exact lists
  · exact run.unique listed
  · rintro ⟨rfl, rfl⟩
    exact listed
  · rw [List.contains_iff_mem, lists.mem_iff]

end Answers

/-! ### Signers among other things -/

/-- An event whose body has a key. -/
def signerEvent (key : Json) : Json :=
  .obj [("type", .str "SIGNER"), ("signerEventBody", .obj [("key", key)])]

/-- A key under two spellings, another one, and events of which none tells of a key. -/
def mixedEvents : List Json :=
  [signerEvent (.str "0xABcd"), .str "junk", .obj [("signerEventBody", .null)],
    signerEvent (.str ""), signerEvent (.str "abCD"), .obj [("signerEventBody", .obj [])],
    signerEvent (.str "00")]

theorem lists_mixedEvents : Lists mixedEvents [[0xab, 0xcd], [0xab, 0xcd], [0]] := by
  have carries {text : String} {key : Bytes} (writes : Writes text key) (nonempty : key ≠ []) :
      Carries (signerEvent (.str text)) key := ⟨_, text, rfl, rfl, writes, nonempty⟩
  have marked : Writes "0xABcd" [0xab, 0xcd] := ⟨"ABcd".toList, rfl, .inr rfl⟩
  have bare : Writes "abCD" [0xab, 0xcd] := ⟨"abCD".toList, rfl, .inl rfl⟩
  have zero : Writes "00" [0] := ⟨"00".toList, rfl, .inl rfl⟩
  refine .carried (carries marked (by decide)) (.ignored (.stray nofun) (.ignored (.bodiless ?_)
    (.ignored (.keyless rfl ?_) (.carried (carries bare (by decide)) (.ignored (.keyless rfl ?_)
      (.carried (carries zero (by decide)) .nil))))))
  · rintro body ⟨⟩
    rfl
  · rintro key ⟨⟩
    rfl
  · rintro key ⟨⟩

/-- The keys of the mixed events, the first of them twice, are had of a listing; a poll sees each
of them, and no other. -/
theorem mixedEvents_listed :
    (∀ event ∈ mixedEvents, (∃ key, Carries event key) ∨ Ignorable event) ∧
    ∃ before response answered,
      Runs (Session.exchange (Authorization.sampleHub.listing (.int 7))) before (.ok response)
        answered ∧
      response.ok = true ∧ response.document = .ok (.obj [("events", .arr mixedEvents)]) ∧
      Runs (Authorization.sampleHub.keysOf (.int 7)) before
        (.ok [[0xab, 0xcd], [0xab, 0xcd], [0]]) answered ∧
      ∀ key, (∃ event ∈ mixedEvents, Carries event key) ↔ key = [0xab, 0xcd] ∨ key = [0] := by
  have each := lists_mixedEvents.each
  let document : Json := .obj [("events", .arr mixedEvents)]
  have isDocument : (Http.Response.ofJson 200 document).document = .ok document :=
    Http.Response.document_ofJson (by simp [document, mixedEvents, signerEvent, Json.Regular,
      Json.RegularItems, Json.RegularFields, Json.keysOf]) 200
  have asks := @Performs.exchange_responded
    (Authorization.sampleSession [Peers.answerOf (.ofJson 200 document)])
    (Authorization.sampleHub.listing (.int 7)) "/v1/onChainSignersByFid" (.ofJson 200 document) _
    rfl rfl
  obtain ⟨journal, asked, -⟩ := asks.runs
  obtain ⟨keys, lists, listed, seen⟩ :=
    events_listed_in_order asked rfl isDocument rfl each
  obtain rfl := (lists _).mp lists_mixedEvents
  refine ⟨each, _, _, _, asked, rfl, isDocument, (listed _ _).mpr ⟨rfl, rfl⟩, fun key => ?_⟩
  rw [← (seen key).1]
  simp

end Hub

end Provisioning
