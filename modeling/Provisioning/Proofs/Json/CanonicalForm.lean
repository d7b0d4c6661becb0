import Mathlib.Data.List.Perm.Subperm
import Provisioning.Proofs.Json.Sameness

/-!
# The canonical form

Two documents are *alike* if they are equal up to the order of members, at every depth
(`Json.alike`). Sorting decides that: regular documents are alike exactly if they are one
document once they are sorted (`Json.sortKeys_eq_iff`), because members with distinct keys
can be sorted in one way only. The canonical text adds nothing to that and loses nothing of
it: it reads back as a document alike to the one that was written, which is written the same
way again, and two documents share it exactly if they are alike
(`Json.canonical_faithful`).
-/

namespace Provisioning.Json

mutual

/-- Equality up to the order of members, at every depth: objects bind the same keys to such
values. A truth value is no number, and a numeral in quotes is none. -/
def alike : Json → Json → Bool
  | .null, .null => true
  | .bool a, .bool b => a == b
  | .int m, .int n => m == n
  | .float x, .float y => x == y
  | .str s, .str t => s == t
  | .arr xs, .arr ys => alikeItems xs ys
  | .obj xs, .obj ys => xs.length == ys.length && alikeFields xs ys
  | _, _ => false

def alikeItems : List Json → List Json → Bool
  | [], [] => true
  | x :: xs, y :: ys => alike x y && alikeItems xs ys
  | _, _ => false

/-- Whether the second list binds the key of each member of the first to an alike value. -/
def alikeFields : List (String × Json) → List (String × Json) → Bool
  | [], _ => true
  | (k, x) :: rest, ys => (find? k ys).any (alike x) && alikeFields rest ys

end

theorem alikeFields_iff {fields others : List (String × Json)} :
    alikeFields fields others = true ↔
      ∀ field ∈ fields, ∃ value, find? field.1 others = some value ∧ alike field.2 value = true := by
  induction fields with
  | nil => simp [alikeFields]
  | cons field rest ih => simp [alikeFields, ih, Option.any_eq_true]

/-! ## Members in the order of their keys -/

section Order

variable {fields others : List (String × Json)}

theorem sortedFields_pairwise (fields : List (String × Json)) :
    (sortedFields fields).Pairwise fun a b => a.1 ≤ b.1 := by
  let below (a b : String × Json) : Bool := decide (a.1 ≤ b.1)
  have trans (a b c : String × Json) (first : below a b) (second : below b c) : below a c := by
    simp only [below, decide_eq_true_eq] at first second ⊢
    exact String.le_trans first second
  have total (a b : String × Json) : below a b || below b a := by
    simpa [below] using String.le_total a.1 b.1
  have sorted := List.pairwise_mergeSort trans total (sortFields fields)
  simpa [sortedFields, below] using sorted

/-- Among distinct keys, the key tells the member. -/
theorem eq_of_mem_of_key {first second : String × Json} (distinct : (keysOf fields).Nodup)
    (isFirst : first ∈ fields) (isSecond : second ∈ fields) (same : first.1 = second.1) :
    first = second := by
  have foundFirst := (find?_eq_some_iff distinct).mpr isFirst
  have foundSecond := (find?_eq_some_iff distinct).mpr isSecond
  rw [same, foundSecond] at foundFirst
  exact Prod.ext same (Option.some.inj foundFirst).symm

/-- Members with distinct keys are put into one order, wherever they come from. -/
theorem sortedFields_eq_of_perm (distinct : (keysOf fields).Nodup)
    (perm : (sortFields fields).Perm (sortFields others)) :
    sortedFields fields = sortedFields others := by
  have distinct' : (keysOf (sortFields fields)).Nodup := by
    rw [keysOf_sortFields]
    exact distinct
  have sorted : (sortedFields fields).Perm (sortedFields others) :=
    (sortedFields_perm fields).trans (perm.trans (sortedFields_perm others).symm)
  refine List.Perm.eq_of_pairwise ?_ (sortedFields_pairwise fields)
    (sortedFields_pairwise others) sorted
  intro first second isFirst isSecond below above
  have inside := (sortedFields_perm fields).mem_iff.mp isFirst
  have inside' := perm.mem_iff.mpr ((sortedFields_perm others).mem_iff.mp isSecond)
  exact eq_of_mem_of_key distinct' inside inside' (String.le_antisymm below above)

/-- Members that are all found among as many others are the others. -/
theorem perm_of_subset (distinct : (keysOf fields).Nodup) (subset : fields ⊆ others)
    (count : others.length ≤ fields.length) : fields.Perm others := by
  have nodup : fields.Nodup :=
    List.Pairwise.of_map Prod.fst (fun _ _ differ same => differ (congrArg Prod.fst same)) distinct
  exact (List.subperm_of_subset nodup subset).perm_of_length_le count

end Order

/-! ## Sorted documents tell alike ones -/

/-- Sorting settles whether a value is alike to any regular one. -/
def SortingTells (value : Json) : Prop :=
  ∀ other : Json, other.Regular → (value.sortKeys = other.sortKeys ↔ alike value other = true)

theorem sortItems_eq_iff {items others : List Json} (tells : ∀ item ∈ items, SortingTells item)
    (regular : RegularItems others) :
    sortItems items = sortItems others ↔ alikeItems items others = true := by
  induction items generalizing others with
  | nil => cases others <;> simp [sortItems, alikeItems]
  | cons item rest ih =>
    cases others with
    | nil => simp [sortItems, alikeItems]
    | cons other others =>
      obtain ⟨here, later⟩ := List.forall_mem_cons.mp tells
      simp [sortItems, alikeItems, here other regular.1, ih later regular.2]

theorem sortedFields_eq_iff {fields others : List (String × Json)}
    (tells : ∀ field ∈ fields, SortingTells field.2) (distinct : (keysOf fields).Nodup)
    (regular : (obj others).Regular) :
    sortedFields fields = sortedFields others ↔
      fields.length = others.length ∧ alikeFields fields others = true := by
  rw [alikeFields_iff]
  constructor
  · intro same
    refine ⟨by rw [← length_sortedFields fields, same, length_sortedFields], ?_⟩
    intro field member
    have found := find?_sortKeys distinct field.1
    rw [same, find?_sortKeys regular.1, (find?_eq_some_iff distinct).mpr member] at found
    obtain ⟨value, isValue, sorted⟩ := Option.map_eq_some_iff.mp found
    have regularValue := regularFields_iff.mp regular.2 _
      ((find?_eq_some_iff regular.1).mp isValue)
    exact ⟨value, isValue, (tells field member value regularValue).mp sorted.symm⟩
  · rintro ⟨count, bound⟩
    refine sortedFields_eq_of_perm distinct (perm_of_subset ?_ ?_ ?_)
    · rw [keysOf_sortFields]
      exact distinct
    · rw [sortFields_eq_map, sortFields_eq_map]
      intro sorted member
      obtain ⟨field, inside, rfl⟩ := List.mem_map.mp member
      obtain ⟨value, isValue, isAlike⟩ := bound field inside
      have isMember := (find?_eq_some_iff regular.1).mp isValue
      have regularValue := regularFields_iff.mp regular.2 _ isMember
      rw [(tells field inside value regularValue).mpr isAlike]
      exact List.mem_map_of_mem isMember
    · simp only [sortFields_eq_map, List.length_map, count, Nat.le_refl]

mutual

theorem sortingTells : ∀ value : Json, value.Regular → value.SortingTells
  | .null, _, other, _ | .bool _, _, other, _ | .int _, _, other, _ | .str _, _, other, _ => by
    cases other <;> simp [sortKeys, alike]
  | .float _, regular, _, _ => regular.elim
  | .arr items, regular, other, regularOther => by
    cases other with
    | arr others =>
      rw [sortKeys, sortKeys, alike, arr.injEq]
      exact sortItems_eq_iff (sortingTellsItems items regular) regularOther
    | _ => simp [sortKeys, alike]
  | .obj fields, regular, other, regularOther => by
    cases other with
    | obj others =>
      rw [sortKeys_obj, sortKeys_obj, alike, obj.injEq, Bool.and_eq_true, beq_iff_eq]
      exact sortedFields_eq_iff (sortingTellsFields fields regular.2) regular.1 regularOther
    | _ => simp [sortKeys, alike]

theorem sortingTellsItems : ∀ items : List Json, RegularItems items →
    ∀ item ∈ items, SortingTells item
  | [], _ => nofun
  | item :: rest, regular => List.forall_mem_cons.mpr
    ⟨sortingTells item regular.1, sortingTellsItems rest regular.2⟩

theorem sortingTellsFields : ∀ fields : List (String × Json), RegularFields fields →
    ∀ field ∈ fields, SortingTells field.2
  | [], _ => nofun
  | (_, value) :: rest, regular => List.forall_mem_cons.mpr
    ⟨sortingTells value regular.1, sortingTellsFields rest regular.2⟩

end

/-- Regular documents are alike exactly if they are sorted into one document. -/
theorem sortKeys_eq_iff {document other : Json} (regular : document.Regular)
    (regularOther : other.Regular) :
    document.sortKeys = other.sortKeys ↔ alike document other = true :=
  sortingTells document regular other regularOther

/-! ## Sorting twice -/

mutual

/-- A sorted document is sorted already. -/
theorem sortKeys_sortKeys : ∀ value : Json, value.Regular → value.sortKeys.sortKeys = value.sortKeys
  | .null, _ | .bool _, _ | .int _, _ | .str _, _ => rfl
  | .float _, regular => regular.elim
  | .arr items, regular => by
    rw [sortKeys, sortKeys, sortItems_sortItems items regular]
  | .obj fields, regular => by
    have again : (sortFields (sortedFields fields)).Perm (sortFields fields) := by
      have moved := (sortedFields_perm fields).map fun field => (field.1, field.2.sortKeys)
      rw [← sortFields_eq_map, ← sortFields_eq_map, sortFields_sortFields fields regular.2] at moved
      exact moved
    have distinct := (keysOf_sortedFields_perm fields).nodup_iff.mpr regular.1
    rw [sortKeys_obj, sortKeys_obj, sortedFields_eq_of_perm distinct again]

theorem sortItems_sortItems : ∀ items : List Json, RegularItems items →
    sortItems (sortItems items) = sortItems items
  | [], _ => rfl
  | item :: rest, regular => by
    rw [sortItems, sortItems, sortKeys_sortKeys item regular.1,
      sortItems_sortItems rest regular.2]

theorem sortFields_sortFields : ∀ fields : List (String × Json), RegularFields fields →
    sortFields (sortFields fields) = sortFields fields
  | [], _ => rfl
  | (key, value) :: rest, regular => by
    rw [sortFields, sortFields, sortKeys_sortKeys value regular.1,
      sortFields_sortFields rest regular.2]

end

/-! ## The canonical bytes -/

variable {document other : Json}

theorem canonical_congr (same : document.sortKeys = other.sortKeys) :
    document.canonical = other.canonical := by
  rw [canonical, canonicalChars, same, canonical, canonicalChars]

/-- The canonical bytes tell the sorted document. -/
theorem canonical_eq_iff (regular : document.Regular) (regularOther : other.Regular) :
    document.canonical = other.canonical ↔ document.sortKeys = other.sortKeys := by
  refine ⟨fun same => ?_, canonical_congr⟩
  have readBack := readBytes_canonical regular
  rw [same, readBytes_canonical regularOther] at readBack
  exact (Except.ok.inj readBack).symm

/-- The canonical bytes of a regular document are read as a document that is alike to it and
has the same canonical bytes; and two regular documents have the same ones exactly if they
are alike. -/
theorem canonical_faithful (regular : document.Regular) :
    (∃ back, readBytes document.canonical = .ok back ∧ alike back document = true ∧
      back.canonical = document.canonical) ∧
    ∀ other : Json, other.Regular →
      (document.canonical = other.canonical ↔ alike document other = true) := by
  have sorted := sortKeys_sortKeys document regular
  refine ⟨⟨document.sortKeys, readBytes_canonical regular, ?_, canonical_congr sorted⟩, ?_⟩
  · exact (sortKeys_eq_iff (regular_sortKeys document regular) regular).mp sorted
  · intro other regularOther
    rw [canonical_eq_iff regular regularOther, sortKeys_eq_iff regular regularOther]

/-- A document with members out of order at two depths. -/
def unsorted : Json :=
  .obj [("b", .arr [.int 1, .str "1"]), ("a", .obj [("😀", .null), ("\"", .bool true)])]

/-- The same members in order. -/
def resorted : Json :=
  .obj [("a", .obj [("\"", .bool true), ("😀", .null)]), ("b", .arr [.int 1, .str "1"])]

/-- The same places with values that are taken for one another elsewhere. -/
def confused : Json :=
  .obj [("b", .arr [.bool true, .int 1]), ("a", .obj [("😀", .null), ("\"", .int 1)])]

theorem unsorted_faithful :
    unsorted.Regular ∧ resorted.Regular ∧ confused.Regular ∧
    (∃ back, readBytes unsorted.canonical = .ok back ∧ alike back unsorted = true ∧
      back.canonical = unsorted.canonical) ∧
    unsorted.canonical = resorted.canonical ∧ unsorted.canonical ≠ confused.canonical := by
  have regular : unsorted.Regular := by
    simp [unsorted, Regular, RegularItems, RegularFields, keysOf]
  have regular' : resorted.Regular := by
    simp [resorted, Regular, RegularItems, RegularFields, keysOf]
  have regular'' : confused.Regular := by
    simp [confused, Regular, RegularItems, RegularFields, keysOf]
  obtain ⟨back, tells⟩ := canonical_faithful regular
  refine ⟨regular, regular', regular'', back, (tells resorted regular').mpr rfl, fun same => ?_⟩
  exact absurd ((tells confused regular'').mp same) (by decide)

end Provisioning.Json
