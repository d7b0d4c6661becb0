import Provisioning.Proofs.Json.RoundTrip

/-!
# Documents that were read

Whatever the reader returns binds no key twice in any object: a member that a text names
again keeps its place and takes the later value. A document that was read is therefore
regular as soon as it is *integral*, that is, holds no binary64 number
(`Json.regular_of_readBytes`).
-/

namespace Provisioning.Json

mutual

/-- No binary64 number, at any depth. -/
def Integral : Json → Prop
  | .float _ => False
  | .arr items => IntegralItems items
  | .obj fields => IntegralFields fields
  | _ => True

def IntegralItems : List Json → Prop
  | [] => True
  | item :: rest => item.Integral ∧ IntegralItems rest

def IntegralFields : List (String × Json) → Prop
  | [] => True
  | (_, value) :: rest => value.Integral ∧ IntegralFields rest

end

theorem integralItems_iff {items : List Json} :
    IntegralItems items ↔ ∀ item ∈ items, item.Integral := by
  induction items with
  | nil => simp [IntegralItems]
  | cons item rest ih => simp [IntegralItems, ih]

theorem integralFields_iff {fields : List (String × Json)} :
    IntegralFields fields ↔ ∀ field ∈ fields, field.2.Integral := by
  induction fields with
  | nil => simp [IntegralFields]
  | cons field rest ih => simp [IntegralFields, ih]

/-! ## Members that are bound again -/

theorem mem_put {key : String} {value : Json} {fields : List (String × Json)}
    {field : String × Json} (member : field ∈ put key value fields) :
    field = (key, value) ∨ field ∈ fields := by
  induction fields with
  | nil => exact .inl (List.mem_singleton.mp member)
  | cons first rest ih =>
    rw [put] at member
    split at member
    · next same =>
      rcases List.mem_cons.mp member with here | later
      · exact .inl (same ▸ here)
      · exact .inr (List.mem_cons_of_mem _ later)
    · rcases List.mem_cons.mp member with here | later
      · exact .inr (here ▸ List.mem_cons_self)
      · exact (ih later).imp id (List.mem_cons_of_mem _)

theorem keysOf_put_of_mem {key : String} {fields : List (String × Json)}
    (bound : key ∈ keysOf fields) (value : Json) :
    keysOf (put key value fields) = keysOf fields := by
  induction fields with
  | nil => cases bound
  | cons first rest ih =>
    rw [put]
    split
    · rfl
    · next differ =>
      have later : key ∈ keysOf rest :=
        (List.mem_cons.mp bound).resolve_left (Ne.symm differ)
      exact congrArg (first.1 :: ·) (ih later)

theorem nodup_put {fields : List (String × Json)} (distinct : (keysOf fields).Nodup)
    (key : String) (value : Json) : (keysOf (put key value fields)).Nodup := by
  by_cases bound : key ∈ keysOf fields
  · rw [keysOf_put_of_mem bound]
    exact distinct
  · rw [put_of_not_mem bound, keysOf, List.map_append]
    refine List.nodup_append.mpr ⟨distinct, by simp, ?_⟩
    intro old isOld new isNew same
    rcases List.mem_singleton.mp isNew with rfl
    exact bound (same ▸ isOld)

/-- Binding members one after the other makes no key double, and invents no value. -/
theorem foldl_put_inv {members bound : List (String × Json)}
    (distinct : (keysOf bound).Nodup) :
    (keysOf (members.foldl (fun all member => put member.1 member.2 all) bound)).Nodup ∧
      ∀ field ∈ members.foldl (fun all member => put member.1 member.2 all) bound,
        field ∈ bound ∨ field ∈ members := by
  induction members generalizing bound with
  | nil => exact ⟨distinct, fun _ member => .inl member⟩
  | cons first rest ih =>
    obtain ⟨still, origin⟩ := ih (nodup_put distinct first.1 first.2)
    refine ⟨still, ?_⟩
    intro field member
    rcases origin field member with put | later
    · rcases mem_put put with rfl | old
      · exact .inr List.mem_cons_self
      · exact .inl old
    · exact .inr (List.mem_cons_of_mem _ later)

theorem nodup_keysOf_nil : (keysOf []).Nodup :=
  List.nodup_nil

theorem nodup_ofMembers (members : List (String × Json)) :
    (keysOf (ofMembers members)).Nodup :=
  (foldl_put_inv nodup_keysOf_nil).1

theorem mem_of_mem_ofMembers {members : List (String × Json)} {field : String × Json}
    (member : field ∈ ofMembers members) : field ∈ members :=
  ((foldl_put_inv nodup_keysOf_nil).2 field member).resolve_left List.not_mem_nil

/-! ## One step of the reader -/

variable {fuel : Nat} {value : Json} {text rest : List Char}

/-- A word or a numeral is no list and no object. -/
theorem readScalar_inv (read : readScalar text = .ok (value, rest)) :
    (∀ items, value ≠ .arr items) ∧ ∀ fields, value ≠ .obj fields := by
  have number : ∀ {negative digits result}, readNumber negative digits = some result →
      (∀ items, result.1 ≠ .arr items) ∧ ∀ fields, result.1 ≠ .obj fields := by
    intro negative digits result found
    unfold readNumber at found
    split at found
    · cases found
    · simp only at found
      repeat' split at found
      all_goals
        cases found
        exact ⟨nofun, nofun⟩
  unfold readScalar at read
  split at read
  case h_7 | h_8 =>
    split at read
    · next found =>
      cases read
      exact number found
    · cases read
  all_goals
    cases read
    exact ⟨nofun, nofun⟩

/-- What a list or an object that was read is made of. -/
theorem readValue_inv (read : readValue (fuel + 1) text = .ok (value, rest)) :
    (∀ items, value = .arr items →
      items = [] ∨ ∃ inside, readItems fuel inside = .ok (items, rest)) ∧
    ∀ fields, value = .obj fields →
      fields = [] ∨ ∃ inside members, readMembers fuel inside = .ok (members, rest) ∧
        fields = ofMembers members := by
  rw [readValue.eq_def] at read
  simp only at read
  split at read
  · split at read
    · cases read
      exact ⟨by simp, by simp⟩
    · cases read
  · split at read
    · cases read
      refine ⟨?_, by simp⟩
      rintro items ⟨⟩
      exact .inl rfl
    · split at read
      · next found =>
        cases read
        refine ⟨?_, by simp⟩
        rintro items ⟨⟩
        exact .inr ⟨_, found⟩
      · cases read
  · split at read
    · cases read
      refine ⟨by simp, ?_⟩
      rintro fields ⟨⟩
      exact .inl rfl
    · split at read
      · next found =>
        cases read
        refine ⟨by simp, ?_⟩
        rintro fields ⟨⟩
        exact .inr ⟨_, _, found, rfl⟩
      · cases read
  · obtain ⟨noItems, noFields⟩ := readScalar_inv read
    exact ⟨fun items isItems => absurd isItems (noItems items),
      fun fields isFields => absurd isFields (noFields fields)⟩

theorem readItems_inv {items : List Json}
    (read : readItems (fuel + 1) text = .ok (items, rest)) :
    ∃ item others after, readValue fuel text = .ok (item, after) ∧ items = item :: others ∧
      (others = [] ∨ ∃ inside, readItems fuel inside = .ok (others, rest)) := by
  rw [readItems] at read
  split at read
  · cases read
  next item after first =>
  split at read
  · cases read
    exact ⟨item, [], after, first, rfl, .inl rfl⟩
  · split at read
    · next others rest found =>
      cases read
      exact ⟨item, others, after, first, rfl, .inr ⟨_, found⟩⟩
    · cases read
  · cases read

theorem readMembers_inv {members : List (String × Json)}
    (read : readMembers (fuel + 1) text = .ok (members, rest)) :
    ∃ key item others inside after, readValue fuel inside = .ok (item, after) ∧
      members = (key, item) :: others ∧
      (others = [] ∨ ∃ inside, readMembers fuel inside = .ok (others, rest)) := by
  rw [readMembers.eq_def] at read
  simp only at read
  split at read
  · split at read
    · cases read
    next key after isKey =>
    split at read
    · split at read
      · cases read
      next item after first =>
      split at read
      · cases read
        exact ⟨key, item, [], _, after, first, rfl, .inl rfl⟩
      · split at read
        · next others rest found =>
          cases read
          exact ⟨key, item, others, _, after, first, rfl, .inr ⟨_, found⟩⟩
        · cases read
      · cases read
    · cases read
  · cases read

/-! ## Whole documents -/

/-- At any fuel, what is read is regular if it is integral. The three readers spend the
fuel together, so the induction is on it. -/
theorem regular_of_reading (fuel : Nat) :
    (∀ {text value rest}, readValue fuel text = .ok (value, rest) → value.Integral →
      value.Regular) ∧
    (∀ {text items rest}, readItems fuel text = .ok (items, rest) →
      ∀ item ∈ items, item.Integral → item.Regular) ∧
    ∀ {text members rest}, readMembers fuel text = .ok (members, rest) →
      ∀ member ∈ members, member.2.Integral → member.2.Regular := by
  induction fuel with
  | zero =>
    refine ⟨?_, ?_, ?_⟩
    · intro text value rest read
      cases read
    · intro text items rest read
      cases read
    · intro text members rest read
      cases read
  | succ fuel ih =>
    obtain ⟨ihValue, ihItems, ihMembers⟩ := ih
    refine ⟨?_, ?_, ?_⟩
    · intro text value rest read integral
      obtain ⟨ofItems, ofFields⟩ := readValue_inv read
      cases value with
      | null | bool | int | str => trivial
      | float x => exact integral.elim
      | arr items =>
        refine regularItems_iff.mpr fun item member => ?_
        have whole := integralItems_iff.mp integral item member
        rcases ofItems items rfl with rfl | ⟨inside, found⟩
        · cases member
        · exact ihItems found item member whole
      | obj fields =>
        rcases ofFields fields rfl with rfl | ⟨inside, members, found, rfl⟩
        · exact ⟨List.nodup_nil, trivial⟩
        · refine ⟨nodup_ofMembers members, regularFields_iff.mpr fun field member => ?_⟩
          have whole := integralFields_iff.mp integral field member
          exact ihMembers found field (mem_of_mem_ofMembers member) whole
    · intro text items rest read item member whole
      obtain ⟨first, others, after, isFirst, rfl, more⟩ := readItems_inv read
      rcases List.mem_cons.mp member with rfl | later
      · exact ihValue isFirst whole
      · rcases more with rfl | ⟨inside, found⟩
        · cases later
        · exact ihItems found item later whole
    · intro text members rest read member isMember whole
      obtain ⟨key, first, others, inside, after, isFirst, rfl, more⟩ := readMembers_inv read
      rcases List.mem_cons.mp isMember with rfl | later
      · exact ihValue isFirst whole
      · rcases more with rfl | ⟨inside, found⟩
        · cases later
        · exact ihMembers found member later whole

theorem regular_of_read {document : Json} (read : Json.read text = .ok document)
    (integral : document.Integral) : document.Regular := by
  unfold Json.read at read
  split at read
  · cases read
  next value rest found =>
  split at read
  · cases read
    exact (regular_of_reading _).1 found integral
  · cases read

/-- A document that was read from bytes is regular if it holds no binary64 number. -/
theorem regular_of_readBytes {bytes : Bytes} {document : Json}
    (read : readBytes bytes = .ok document) (integral : document.Integral) :
    document.Regular := by
  unfold readBytes at read
  split at read
  · cases read
  · split at read
    · next text _ value found =>
      cases read
      exact regular_of_read found integral
    · cases read

end Provisioning.Json
