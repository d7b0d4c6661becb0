import Mathlib.Data.Nat.Digits.Lemmas
import Provisioning.Proofs.Message.Username
import Provisioning.Proofs.Run.NameClaim
import Provisioning.Proofs.Run.Unhindered

/-!
# Names made from numbers

The name that is claimed for an account without one is a mark with the digits of the account's
number behind it. No two accounts share it, and a profile takes it as long as there are twelve
digits at most: four characters of the mark leave twelve of sixteen. The authority has no such
limit. So a run for an account with a longer number claims the name, and fails once it has it,
with nothing published (`Provisioner.ClaimsName.refused`). Main statement:
`NamingAuthority.fallback_publishable_iff`.
-/

namespace Provisioning

open Session

namespace NamingAuthority

variable {fid : Int}

/-! ## The name and its limit -/

theorem toList_fallbackName (account : Int) :
    (fallbackName (.int account)).toList = "fid-".toList ++ Numeral.intChars account := by
  rw [fallbackName, String.toList_append]
  exact congrArg ("fid-".toList ++ ·) String.toList_ofList

theorem fallbackName_inj {a b : Int} (same : fallbackName (.int a) = fallbackName (.int b)) :
    a = b := by
  have chars := congrArg String.toList same
  rw [toList_fallbackName, toList_fallbackName] at chars
  exact Json.intChars_injective (List.append_cancel_left chars)

/-- The digits of a positive number, behind the mark. -/
theorem fallbackName_toDigits (positive : 1 ≤ fid) :
    (fallbackName (.int fid)).toList = "fid-".toList ++ Nat.toDigits 10 fid.toNat := by
  rw [fallbackName_int (by omega), claimedName, String.toList_append]
  exact congrArg ("fid-".toList ++ ·) String.toList_ofList

theorem characters_fallbackName (positive : 1 ≤ fid) :
    ∀ c ∈ (fallbackName (.int fid)).toList, Username.IsAlphanumeric c ∨ c = '-' := by
  rw [fallbackName_toDigits positive]
  intro c member
  rw [← Username.isPart_iff]
  rcases List.mem_append.mp member with mark | digit
  · exact List.all_eq_true.mp (by decide : "fid-".toList.all Username.isPart = true) c mark
  · have isDigit := Numeral.isDigit_of_mem_toDigits digit
    simp only [Numeral.isDigit, Bool.and_eq_true, decide_eq_true_eq] at isDigit
    simp [Username.isPart, Username.isInitial, isDigit]

/-- A name takes a byte for each character, and has four more than the number has digits. -/
theorem length_encode_fallbackName (positive : 1 ≤ fid) :
    (Utf8.encode (fallbackName (.int fid))).length = 4 + (Nat.toDigits 10 fid.toNat).length := by
  have ascii : ∀ c ∈ (fallbackName (.int fid)).toList, c.toNat < 0x80 := fun c member =>
    Username.ascii_of_isPart (characters_fallbackName positive c member)
  rw [Utf8.encode, Utf8.encodeChars_of_ascii ascii, List.length_map,
    fallbackName_toDigits positive, List.length_append]
  rfl

theorem length_encode_fallbackName_le_iff (positive : 1 ≤ fid) :
    (Utf8.encode (fallbackName (.int fid))).length ≤ 16 ↔ fid < 10 ^ 12 := by
  have digits : (Nat.toDigits 10 fid.toNat).length ≤ 12 ↔ fid.toNat < 10 ^ 12 :=
    Nat.length_toDigits_le_iff (by decide) (by decide)
  rw [length_encode_fallbackName positive]
  omega

/-- Up to its length, the name is a username. -/
theorem isName_fallbackName (positive : 1 ≤ fid) (small : fid < 10 ^ 12) :
    Username.IsName (fallbackName (.int fid)).toList := by
  have short := (length_encode_fallbackName_le_iff positive).mpr small
  rw [length_encode_fallbackName positive] at short
  refine ⟨?_, ?_, characters_fallbackName positive, ?_⟩ <;> rw [fallbackName_toDigits positive]
  · exact List.cons_ne_nil _ _
  · rw [List.length_append]
    exact short
  · exact fun dash => absurd (Option.some.inj dash) (by decide)

theorem takesName_fallbackName_iff (positive : 1 ≤ fid) :
    Body.TakesName (fallbackName (.int fid)) ↔ fid < 10 ^ 12 := by
  rw [Body.takesName_iff, ← length_encode_fallbackName_le_iff positive]
  constructor
  · rintro (isEmpty | fits)
    · rw [isEmpty]
      decide
    · exact fits.1
  · intro short
    have small := (length_encode_fallbackName_le_iff positive).mp short
    exact .inr (Username.fits_iff.mpr (.inl (isName_fallbackName positive small)))

theorem profileUpdate_fallbackName (positive : 1 ≤ fid) (large : 10 ^ 12 ≤ fid) :
    Body.profileUpdate (.int ProfileField.username.code) (.str (fallbackName (.int fid))) =
      .error (.refusal (.valueTooLong "USERNAME" 16)) := by
  have known : ProfileField.ofCode? ProfileField.username.code = some .username := rfl
  have long : ProfileField.username.limit < (Utf8.encode (fallbackName (.int fid))).length := by
    rw [← Nat.not_le]
    exact fun short => absurd ((length_encode_fallbackName_le_iff positive).mp short) (by omega)
  rw [Body.profileUpdate_text known, if_pos long]
  rfl

/-! ## The claim that comes before the limit -/

variable {authority : NamingAuthority} {custody : CustodySigner} {account : Json}
variable {owner name : String} {before after : Session}

/-- The record of the claim was posted, and accepted. -/
def Registers (authority : NamingAuthority) (account : Json) (owner name : String)
    (before after : Session) : Prop :=
  ∃ now signature path response,
    Makes [.exchange (authority.claimRequest (transfer account owner name now signature)) path
      (some response)] before after ∧ response.ok = true

/-- A claim that ends in a name ends in the one that is made from the number, and has
registered it. -/
theorem claim_registers (run : Runs (authority.claim custody account owner) before (.ok name) after) :
    name = fallbackName account ∧ authority.Registers account owner name before after := by
  rcases claim_posts run with ⟨now, signature, noted, -, -, talk, posting⟩ | ⟨faulty, -⟩
  · obtain ⟨response, asked, asks, rest⟩ := posting.bind_ok_inv
    obtain ⟨move?, makes, exchanges⟩ := exchange_moves asks
    cases exchanges with
    | answered path =>
      have quiet := talks_conclude account response rest
      rw [conclude] at rest
      rcases Runs.guard_inv rest with ⟨-, isOk, -⟩ | ⟨passed, noting⟩
      · cases isOk
      · obtain ⟨isName, -⟩ := noting.note_bind.pure_ok_inv
        subst isName
        exact ⟨rfl, now, signature, path, response,
          (makes.before_talk quiet).after_talk talk, by simpa using passed⟩
  · obtain ⟨now, telling, signing⟩ := run.unixTime_bind.require_bind_ok_inv
    obtain ⟨signature, signed, -⟩ := signing.require_bind_ok_inv
    exact absurd signed (faulty now signature telling)

end NamingAuthority

namespace Provisioner

variable {provisioner : Provisioner} {key : Option SigningKey} {text : Json}
variable {before looked claimed after : Session} {fid : Int} {taken : DelegatedSigner}
variable {name : String}

/-- A run comes to its name by a claim: it has an account and a signer, the authority knows no
name of the account, and the claim ends in one. -/
structure ClaimsName (provisioner : Provisioner) (key : Option SigningKey) (before : Session)
    (fid : Int) (looked : Session) (name : String) (claimed : Session) : Prop where
  looks : ∃ taken signed, provisioner.HasSigner key before fid taken signed ∧
    Runs (provisioner.authority.lookup (.int fid)) { signed with kept := some taken }
      (.ok none) looked
  claims : Runs (provisioner.authority.claim provisioner.custody (.int fid)
    provisioner.custody.address) looked (.ok name) claimed

theorem ClaimsName.hasName (claims : provisioner.ClaimsName key before fid looked name claimed) :
    ∃ taken, provisioner.HasName key before fid taken (.str name) claimed := by
  obtain ⟨⟨taken, signed, hasSigner, looks⟩, claims⟩ := claims
  refine ⟨taken, signed, hasSigner, looks.bind ?_⟩
  show Runs (if Text.lower provisioner.custody.address ≠ Text.lower provisioner.custody.address
    then _ else _) _ _ _
  rw [if_neg (not_not_intro rfl)]
  exact claims.bind rfl

/-- A run whose bodies cannot be made ends where it has its name. -/
theorem HasName.refused {name : Json} {fault : Fault} {outcome : Except Failure Provisioned}
    (hasName : provisioner.HasName key before fid taken name claimed)
    (isFault : bodies name text = .error fault)
    (ran : Runs (provisioner.run key text) before outcome after) :
    outcome = .error (bodyFailure (.int fid) fault) ∧ after = claimed := by
  obtain ⟨signed, ⟨opened, opens, signs⟩, names⟩ := hasName
  refine ran.unique (Runs.bind opens (.bind signs (.bind rfl (.bind names ?_))))
  simp only [isFault]
  exact .bind_error rfl

/-- A run with a name that is too long for a profile has registered it when it fails, and then
does nothing more. -/
theorem ClaimsName.refused {outcome : Except Failure Provisioned}
    (claims : provisioner.ClaimsName key before fid looked name claimed)
    (positive : 1 ≤ fid) (large : 10 ^ 12 ≤ fid)
    (ran : Runs (provisioner.run key text) before outcome after) :
    outcome = .error (.messageConstruction (.int fid) "USERNAME value exceeds 16 bytes"
      (some (.refusal (.valueTooLong "USERNAME" 16)))) ∧
    after = claimed ∧ name = NamingAuthority.fallbackName (.int fid) ∧
    provisioner.authority.Registers (.int fid) provisioner.custody.address name looked after := by
  obtain ⟨isName, registers⟩ := NamingAuthority.claim_registers claims.claims
  obtain ⟨taken, hasName⟩ := claims.hasName
  have isFault : bodies (.str name) text = .error (.refusal (.valueTooLong "USERNAME" 16)) := by
    rw [bodies, isName, NamingAuthority.profileUpdate_fallbackName positive large]
    rfl
  obtain ⟨rfl, rfl⟩ := HasName.refused hasName isFault ran
  exact ⟨rfl, rfl, isName, registers⟩

end Provisioner

namespace NamingAuthority

/-- A profile takes the name made from a number exactly if the number is below a million
millions. From there on the name is too long for a profile, and a run that comes to it by a claim
has registered it by the time it fails for that. No other number makes the same name. -/
theorem fallback_publishable_iff {fid : Int} (positive : 1 ≤ fid) :
    (Body.TakesName (fallbackName (.int fid)) ↔ fid < 10 ^ 12) ∧
    (10 ^ 12 ≤ fid →
      Body.profileUpdate (.int ProfileField.username.code) (.str (fallbackName (.int fid))) =
        .error (.refusal (.valueTooLong "USERNAME" 16)) ∧
      ∀ (provisioner : Provisioner) key text before looked name claimed outcome after,
        provisioner.ClaimsName key before fid looked name claimed →
        Runs (provisioner.run key text) before outcome after →
          outcome = .error (.messageConstruction (.int fid) "USERNAME value exceeds 16 bytes"
            (some (.refusal (.valueTooLong "USERNAME" 16)))) ∧
          after = claimed ∧ name = fallbackName (.int fid) ∧
          provisioner.authority.Registers (.int fid) provisioner.custody.address name looked
            after) ∧
    ∀ other : Int, fallbackName (.int other) = fallbackName (.int fid) → other = fid := by
  refine ⟨takesName_fallbackName_iff positive, fun large => ?_, fun other => fallbackName_inj⟩
  refine ⟨profileUpdate_fallbackName positive large, ?_⟩
  intro provisioner key text before looked name claimed outcome after claims ran
  exact claims.refused positive large ran

/-! ### A number of thirteen digits -/

/-- The least secret's owner. -/
def crowdedWorker : Provisioner where
  settings := Settings.ofEndpoints "http://chain" "01" "http://hub"
  custody := Authorization.leastCustody
  hub := ⟨"http://hub", none⟩
  authority := ⟨"http://names"⟩

/-- A ledger on which the owner has the least account whose number has thirteen digits. -/
def crowdedLedger : Contract.Ledger :=
  (Contract.Ledger.create crowdedWorker.custody.address 5 1 7).setAccount
    crowdedWorker.custody.address (10 ^ 12)

/-- The owner's session: the authority knows no name, and whatever is sent is accepted. -/
def crowdedSession : Session where
  clock := Clock.ofStart (Binary64.ofInt 1700000000)
  seeds := []
  generated := 0
  chain := .ledger crowdedLedger
  peers := Peers.accepting
  journal := []
  kept := none

/-- The owner's name is claimed, and the run fails behind it. -/
theorem crowded_name_refused :
    1 ≤ (10 ^ 12 : Int) ∧ ∃ key looked name claimed after,
      crowdedWorker.ClaimsName key crowdedSession (10 ^ 12) looked name claimed ∧
      Runs (crowdedWorker.run key (.str "hi")) crowdedSession
        (.error (.messageConstruction (.int (10 ^ 12)) "USERNAME value exceeds 16 bytes"
          (some (.refusal (.valueTooLong "USERNAME" 16))))) after ∧
      after = claimed ∧
      crowdedWorker.authority.Registers (.int (10 ^ 12)) crowdedWorker.custody.address name looked
        after ∧
      ¬Body.TakesName name ∧ Body.TakesName (fallbackName (.int (10 ^ 12 - 1))) := by
  let signer := DelegatedSigner.ofSeed (List.replicate 32 1) .unregistered
  have time : crowdedSession.clock.time.truncate? = some 1700000000 := by decide +kernel
  have telling : crowdedSession.clock.unix = .ok 1700000000 := by
    rw [Clock.unix, Json.toInt, time]
  have opens : Performs crowdedWorker.opening crowdedSession (.ok (10 ^ 12)) [] crowdedSession :=
    .note_bind (Account.ensure_registered_performs _ rfl
      (Contract.Ledger.accountOf_setAccount _ _ _) (by decide))
  have authorizes : Performs (Authorization.ensure crowdedWorker.settings crowdedWorker.custody
      crowdedWorker.hub (.int (10 ^ 12)) crowdedWorker.custody.address (some (.signer signer)))
      crowdedSession (.ok (signer.mark .active)) [] crowdedSession :=
    Authorization.ensure_some_performs rfl rfl
  obtain ⟨looking, -, looks⟩ := @lookup_performs
    { crowdedSession with kept := some (signer.mark .active) } crowdedWorker.authority
    (.int (10 ^ 12)) ⟨rfl, rfl⟩ rfl rfl
  obtain ⟨claiming, response, peers, -, -, -, claims⟩ := @claim_performs
    { crowdedSession with kept := some (signer.mark .active) } crowdedWorker.authority
    crowdedWorker.custody _ (10 ^ 12) 1700000000 Authorization.ofKey_leastSecret ⟨rfl, rfl⟩ rfl
    telling (by decide)
  obtain ⟨_, opens, -⟩ := opens.runs
  obtain ⟨_, -, signs⟩ := authorizes _
  obtain ⟨_, -, looks⟩ := looks _
  obtain ⟨_, -, claims⟩ := claims _
  have claimsName : crowdedWorker.ClaimsName (some (.signer signer)) crowdedSession (10 ^ 12) _ _ _ :=
    ⟨⟨_, _, ⟨_, opens, signs⟩, looks⟩, claims⟩
  obtain ⟨outcome, after, ran⟩ :=
    Runs.exists_run (crowdedWorker.run (some (.signer signer)) (.str "hi")) crowdedSession
  obtain ⟨takes, refused, -⟩ := fallback_publishable_iff (by decide : (1 : Int) ≤ 10 ^ 12)
  obtain ⟨rfl, ends, -, registers⟩ := (refused (by decide)).2 _ _ _ _ _ _ _ _ _ claimsName ran
  have below := (fallback_publishable_iff (by decide : (1 : Int) ≤ 10 ^ 12 - 1)).1.mpr (by decide)
  exact ⟨by decide, _, _, _, _, after, claimsName, ran, ends, registers,
    fun taken => absurd (takes.mp taken) (by decide), below⟩

end NamingAuthority

end Provisioning
