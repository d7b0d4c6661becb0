import Mathlib.Data.List.TakeWhile
import Provisioning.Http.Location

/-!
# Paths behind a base

A location is refused for its authority alone. What is appended to a base behind its next
directory is never part of the authority, so either all such locations have a path or
none has (`Location.exists_path_append`).
-/

namespace Provisioning.Http.Location

/-- Neither a colon nor a blank. -/
def isSolid (c : Char) : Bool := c != ':' && 0x20 < c.toNat

theorem isSolid_inv {c : Char} (solid : isSolid c = true) : c ≠ ':' ∧ 0x20 < c.toNat := by
  simpa [isSolid] using solid

variable {base tail tail' : List Char}

theorem clean_append (solid : ∀ c ∈ tail, isSolid c = true) : clean (base ++ tail) = clean base ++ tail := by
  have kept : tail.filter (fun c => c != '\t' && c != '\n' && c != '\r') = tail := by
    refine List.filter_eq_self.mpr ?_
    intro c member
    obtain ⟨-, high⟩ := isSolid_inv (solid c member)
    simp only [Bool.and_eq_true, bne_iff_ne]
    refine ⟨⟨?_, ?_⟩, ?_⟩
    all_goals
      rintro rfl
      exact absurd high (by decide)
  have opens : tail.dropWhile (fun c => decide (c.toNat ≤ 0x20)) = tail := by
    cases tail with
    | nil => rfl
    | cons c rest =>
      obtain ⟨-, high⟩ := isSolid_inv (solid c List.mem_cons_self)
      exact List.dropWhile_cons_of_neg (by simpa using high)
  unfold clean
  rw [List.dropWhile_append]
  split
  · next isBlank =>
    rw [opens, kept, List.isEmpty_iff.mp isBlank]
    rfl
  · rw [List.filter_append, kept]

theorem dropScheme_append (solid : ∀ c ∈ tail, isSolid c = true) :
    dropScheme (base ++ tail) = dropScheme base ++ tail := by
  have noColon : tail.dropWhile (· != ':') = [] := by
    refine List.dropWhile_eq_nil_iff.mpr ?_
    intro c member
    simpa using (isSolid_inv (solid c member)).1
  unfold dropScheme
  simp only [List.dropWhile_append, List.takeWhile_append]
  cases found : base.dropWhile (· != ':') with
  | nil => simp [noColon]
  | cons colon rest =>
    have shorter : (base.takeWhile (· != ':')).length ≠ base.length := by
      intro same
      have parts := congrArg List.length (List.takeWhile_append_dropWhile (p := (· != ':')) (l := base))
      rw [List.length_append, found, same] at parts
      simp at parts
    simp only [List.isEmpty_cons, Bool.false_eq_true, if_false, if_neg shorter, List.cons_append]
    split <;> rfl

/-- What follows the next directory is not part of the authority. -/
theorem splitAuthority_append :
    (splitAuthority (base ++ '/' :: 'v' :: '1' :: '/' :: tail)).1 =
      (splitAuthority (base ++ '/' :: 'v' :: '1' :: '/' :: tail')).1 := by
  have ends : endsAuthority '/' = true := rfl
  match base with
  | [] => rfl
  | [c] =>
    by_cases slash : c = '/'
    · subst slash
      rfl
    · simp [splitAuthority, slash]
  | c :: d :: rest =>
    by_cases slashes : c = '/' ∧ d = '/'
    · obtain ⟨rfl, rfl⟩ := slashes
      simp [splitAuthority, List.takeWhile_append, ends]
    · unfold splitAuthority
      simp only [List.cons_append]
      split
      · next isSlashes => simp_all
      · split
        · next isSlashes => simp_all
        · rfl

/-- The authority that a location is refused or taken for. -/
def authority (url : List Char) : List Char :=
  (splitAuthority (dropScheme (clean url))).1

theorem exists_path_iff (url : String) :
    (∃ place, path url = .ok place) ↔ Authority.fault? (authority url.toList) = none := by
  unfold path authority
  simp only
  cases Authority.fault? (splitAuthority (dropScheme (clean url.toList))).1 with
  | none => simp
  | some fault => simp

theorem authority_append (solid : ∀ c ∈ tail, isSolid c = true) (solid' : ∀ c ∈ tail', isSolid c = true) :
    authority (base ++ '/' :: 'v' :: '1' :: '/' :: tail) =
      authority (base ++ '/' :: 'v' :: '1' :: '/' :: tail') := by
  have within {rest : List Char} (solid : ∀ c ∈ rest, isSolid c = true) :
      ∀ c ∈ '/' :: 'v' :: '1' :: '/' :: rest, isSolid c = true := by
    simp only [List.forall_mem_cons]
    exact ⟨rfl, rfl, rfl, rfl, solid⟩
  unfold authority
  rw [clean_append (within solid), clean_append (within solid'), dropScheme_append (within solid),
    dropScheme_append (within solid')]
  exact splitAuthority_append

/-- A base that has a path with one thing appended behind its next directory has one with
any other. -/
theorem exists_path_append {base left right : String}
    (isLeft : left.toList = '/' :: 'v' :: '1' :: '/' :: tail)
    (isRight : right.toList = '/' :: 'v' :: '1' :: '/' :: tail')
    (solid : tail.all isSolid = true) (solid' : tail'.all isSolid = true)
    (hasPath : ∃ place, path (base ++ left) = .ok place) :
    ∃ place, path (base ++ right) = .ok place := by
  have same := @authority_append base.toList _ _ (List.all_eq_true.mp solid)
    (List.all_eq_true.mp solid')
  rw [exists_path_iff, String.toList_append] at hasPath ⊢
  rw [isLeft, same] at hasPath
  rw [isRight]
  exact hasPath

end Provisioning.Http.Location
