import Provisioning.Json.Access
import Provisioning.Proofs.Json.RoundTrip

/-!
# Sorted documents

Putting the members of a regular document into the order of their keys changes no
lookup (`Json.find?_sortKeys`) and keeps the document regular, so its canonical bytes
read back as the sorted document (`Json.readBytes_canonical`).
-/

namespace Provisioning.Json

variable {fields : List (String × Json)}

/-- The members of an object once it is sorted. -/
def sortedFields (fields : List (String × Json)) : List (String × Json) :=
  (sortFields fields).mergeSort fun a b => decide (a.1 ≤ b.1)

theorem sortKeys_obj (fields : List (String × Json)) :
    (obj fields).sortKeys = .obj (sortedFields fields) := by
  rw [sortKeys, sortedFields]

theorem sortedFields_perm (fields : List (String × Json)) :
    (sortedFields fields).Perm (sortFields fields) :=
  List.mergeSort_perm _ _

theorem keysOf_sortFields (fields : List (String × Json)) :
    keysOf (sortFields fields) = keysOf fields := by
  induction fields with
  | nil => rfl
  | cons field rest ih =>
    rw [sortFields, keysOf, List.map_cons, ← keysOf, ih]
    rfl

theorem keysOf_sortedFields_perm (fields : List (String × Json)) :
    (keysOf (sortedFields fields)).Perm (keysOf fields) := by
  rw [← keysOf_sortFields fields]
  exact (sortedFields_perm fields).map Prod.fst

/-! ## Lookups -/

theorem find?_eq_none_iff {key : String} : find? key fields = none ↔ key ∉ keysOf fields := by
  induction fields with
  | nil => simp [find?, keysOf]
  | cons field rest ih =>
    by_cases same : field.1 = key
    · simp [find?, keysOf, same]
    · rw [find?, if_neg same, ih]
      simp [keysOf, Ne.symm same]

theorem find?_eq_some_iff {key : String} {value : Json} (distinct : (keysOf fields).Nodup) :
    find? key fields = some value ↔ (key, value) ∈ fields := by
  induction fields with
  | nil => simp [find?]
  | cons field rest ih =>
    obtain ⟨k, v⟩ := field
    obtain ⟨fresh, distinct⟩ := List.nodup_cons.mp distinct
    by_cases same : k = key
    · subst same
      have absent : (k, value) ∉ rest := fun member =>
        fresh (List.mem_map.mpr ⟨_, member, rfl⟩)
      simp [find?, absent, eq_comm]
    · rw [find?, if_neg same, ih distinct]
      simp [Ne.symm same]

/-- A lookup among distinct keys does not depend on the order of the members. -/
theorem find?_perm {others : List (String × Json)} (perm : fields.Perm others)
    (distinct : (keysOf fields).Nodup) (key : String) : find? key fields = find? key others := by
  have distinct' : (keysOf others).Nodup := (perm.map Prod.fst).nodup_iff.mp distinct
  cases found : find? key others with
  | none =>
    rw [find?_eq_none_iff] at found ⊢
    exact fun member => found ((perm.map Prod.fst).mem_iff.mp member)
  | some value =>
    rw [find?_eq_some_iff distinct'] at found
    exact (find?_eq_some_iff distinct).mpr (perm.mem_iff.mpr found)

theorem find?_sortFields (key : String) (fields : List (String × Json)) :
    find? key (sortFields fields) = (find? key fields).map sortKeys := by
  induction fields with
  | nil => rfl
  | cons field rest ih =>
    by_cases same : field.1 = key
    · simp [sortFields, find?, same]
    · rw [sortFields, find?, if_neg same, find?, if_neg same, ih]

/-- Sorting binds the same keys to the sorted values. -/
theorem find?_sortKeys (distinct : (keysOf fields).Nodup) (key : String) :
    find? key (sortedFields fields) = (find? key fields).map sortKeys := by
  have distinct' : (keysOf (sortedFields fields)).Nodup :=
    (keysOf_sortedFields_perm fields).nodup_iff.mpr distinct
  rw [find?_perm (sortedFields_perm fields) distinct', find?_sortFields]

theorem field_sortKeys (distinct : (keysOf fields).Nodup) {key : String} {value : Json}
    (found : find? key fields = some value) :
    (obj fields).sortKeys.field key = .ok value.sortKeys := by
  rw [sortKeys_obj, field, find?_sortKeys distinct, found]
  rfl

theorem fieldD_sortKeys (distinct : (keysOf fields).Nodup) (key : String) (default : Json) :
    (obj fields).sortKeys.fieldD key default =
      .ok (((find? key fields).map sortKeys).getD default) := by
  rw [sortKeys_obj, fieldD, find?_sortKeys distinct]

theorem mentions_sortKeys (distinct : (keysOf fields).Nodup) (key : String) :
    (obj fields).sortKeys.mentions key = .ok (find? key fields).isSome := by
  rw [sortKeys_obj, mentions, find?_sortKeys distinct, Option.isSome_map]

theorem sortItems_eq_map (items : List Json) : sortItems items = items.map sortKeys := by
  induction items with
  | nil => rfl
  | cons item rest ih => rw [sortItems, ih, List.map_cons]

theorem sortKeys_singleton (key : String) (value : Json) :
    (obj [(key, value)]).sortKeys = .obj [(key, value.sortKeys)] := by
  rw [sortKeys_obj, sortedFields, sortFields, sortFields, List.mergeSort_singleton]

/-! ## Regularity -/

mutual

theorem regular_sortKeys : ∀ value : Json, value.Regular → value.sortKeys.Regular
  | .null, _ => trivial
  | .bool _, _ => trivial
  | .int _, _ => trivial
  | .float _, regular => regular.elim
  | .str _, _ => trivial
  | .arr items, regular => regularItems_sortItems items regular
  | .obj fields, regular => by
    rw [sortKeys_obj]
    refine ⟨(keysOf_sortedFields_perm fields).nodup_iff.mpr regular.1, regularFields_iff.mpr ?_⟩
    intro field member
    exact regularFields_iff.mp (regularFields_sortFields fields regular.2) field
      ((sortedFields_perm fields).mem_iff.mp member)

theorem regularItems_sortItems :
    ∀ items : List Json, RegularItems items → RegularItems (sortItems items)
  | [], _ => trivial
  | item :: rest, regular =>
    ⟨regular_sortKeys item regular.1, regularItems_sortItems rest regular.2⟩

theorem regularFields_sortFields :
    ∀ fields : List (String × Json), RegularFields fields → RegularFields (sortFields fields)
  | [], _ => trivial
  | (_, value) :: rest, regular =>
    ⟨regular_sortKeys value regular.1, regularFields_sortFields rest regular.2⟩

end

theorem readBytes_canonical {document : Json} (regular : document.Regular) :
    readBytes document.canonical = .ok document.sortKeys :=
  (readBytes_write compact_legible document.sortKeys).trans
    (congrArg Except.ok (reread_of_regular _ (regular_sortKeys document regular)))

end Provisioning.Json
