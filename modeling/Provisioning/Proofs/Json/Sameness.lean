import Provisioning.Proofs.Json.SortKeys

/-!
# Sorted documents are the same values

Sorting moves members and changes nothing else: by the equality of values, in which the
order of members does not count, a regular document and its sorted form are the same
(`Json.same_sortKeys`).
-/

namespace Provisioning.Json

theorem sortFields_eq_map (fields : List (String × Json)) :
    sortFields fields = fields.map fun field => (field.1, field.2.sortKeys) := by
  induction fields with
  | nil => rfl
  | cons field rest ih => rw [sortFields, ih, List.map_cons]

theorem length_sortedFields (fields : List (String × Json)) :
    (sortedFields fields).length = fields.length := by
  rw [(sortedFields_perm fields).length_eq, sortFields_eq_map, List.length_map]

theorem mem_sortedFields {fields : List (String × Json)} {field : String × Json}
    (member : field ∈ sortedFields fields) :
    ∃ value, (field.1, value) ∈ fields ∧ field.2 = value.sortKeys := by
  have inside := (sortedFields_perm fields).mem_iff.mp member
  rw [sortFields_eq_map] at inside
  obtain ⟨old, isOld, rfl⟩ := List.mem_map.mp inside
  exact ⟨old.2, isOld, rfl⟩

theorem sameItems_map {items : List Json} {change : Json → Json}
    (all : ∀ item ∈ items, same (change item) item = true) :
    sameItems (items.map change) items = true := by
  induction items with
  | nil => rfl
  | cons item rest ih =>
    obtain ⟨here, others⟩ := List.forall_mem_cons.mp all
    rw [List.map_cons, sameItems, here, ih others]
    rfl

theorem sameFields_of_find? {fields others : List (String × Json)}
    (all : ∀ field ∈ fields, ∃ value, find? field.1 others = some value ∧
      same field.2 value = true) : sameFields fields others = true := by
  induction fields with
  | nil => rfl
  | cons field rest ih =>
    obtain ⟨⟨value, found, here⟩, later⟩ := List.forall_mem_cons.mp all
    rw [sameFields]
    simp only [found, here, ih later, Bool.and_self]

mutual

theorem same_sortKeys : ∀ value : Json, value.Regular → same value.sortKeys value = true
  | .null, _ => rfl
  | .bool b, _ => by cases b <;> rfl
  | .int n, _ => by simp [sortKeys, same, isNumber, sameNumber, integer?]
  | .float _, regular => regular.elim
  | .str s, _ => by simp [sortKeys, same]
  | .arr items, regular => by
    rw [sortKeys, sortItems_eq_map, same]
    exact sameItems_map (same_sortItems items regular)
  | .obj fields, regular => by
    have all := same_sortFields fields regular.2
    rw [sortKeys_obj, same, length_sortedFields, beq_self_eq_true, Bool.true_and]
    refine sameFields_of_find? fun field member => ?_
    obtain ⟨value, inside, isSorted⟩ := mem_sortedFields member
    refine ⟨value, (find?_eq_some_iff regular.1).mpr inside, ?_⟩
    rw [isSorted]
    exact all _ inside

theorem same_sortItems : ∀ items : List Json, RegularItems items →
    ∀ item ∈ items, same item.sortKeys item = true
  | [], _ => by simp
  | item :: rest, regular => List.forall_mem_cons.mpr
    ⟨same_sortKeys item regular.1, same_sortItems rest regular.2⟩

theorem same_sortFields : ∀ fields : List (String × Json), RegularFields fields →
    ∀ field ∈ fields, same field.2.sortKeys field.2 = true
  | [], _ => by simp
  | (_, value) :: rest, regular => List.forall_mem_cons.mpr
    ⟨same_sortKeys value regular.1, same_sortFields rest regular.2⟩

end

end Provisioning.Json
