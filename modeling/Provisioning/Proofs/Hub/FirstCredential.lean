import Provisioning.Proofs.Bytes.Base64
import Provisioning.Proofs.Ethereum.Abi
import Provisioning.Proofs.Run.Settling

/-!
# The credential that a hub is shown

Credentials are entries between commas, and an entry with exactly one colon is a user with a
password. Collecting them by user keeps the place of a user's first entry, but the password of
the last (`Credentials.head?_foldl_put`). So every request to a hub shows the user of the
first such entry, with the password of that user's latest; it shows the first entry itself
exactly if the latest is no other. Without such an entry a request shows nothing. Main
statement: `Hub.asks_first_credential_iff`.
-/

namespace Provisioning

/-! ## Parts of a text -/

namespace Text

variable {separator : Char}

/-- The parts are those of the library's split. -/
theorem splitAt_eq_splitOn (separator : Char) (text : List Char) :
    splitAt separator text = text.splitOn separator := by
  induction text with
  | nil => rfl
  | cons c rest ih =>
    rw [List.splitOn, List.splitOnP_cons_eq_if_modifyHead, ← List.splitOn, ← ih, splitAt]
    simp only [beq_iff_eq]
    split
    · rfl
    · cases parts : splitAt separator rest with
      | nil =>
        have counted := length_splitAt separator rest
        simp [parts] at counted
      | cons first others => rfl

theorem ne_separator {text : List Char} (clear : separator ∉ text) :
    ∀ c ∈ text, (c == separator) = false := by
  intro c member
  exact beq_eq_false_iff_ne.mpr fun same => clear (same ▸ member)

/-- A separator behind a text without one makes a part of it. -/
theorem splitAt_append {first : List Char} (clear : separator ∉ first) (rest : List Char) :
    splitAt separator (first ++ separator :: rest) = first :: splitAt separator rest := by
  rw [splitAt_eq_splitOn, splitAt_eq_splitOn]
  exact List.splitOnP_append_cons_of_forall_mem (ne_separator clear) separator
    (beq_self_eq_true _) rest

/-- A text without separators is one part. -/
theorem splitAt_of_clear {text : List Char} (clear : separator ∉ text) :
    splitAt separator text = [text] := by
  rw [splitAt_eq_splitOn]
  exact List.splitOnP_eq_singleton (ne_separator clear)

end Text

namespace Credentials

/-- An entry with exactly one colon. -/
def isPair (entry : List Char) : Bool := entry.count ':' == 1

/-- The entries of a text that are pairs, in order; entries stand between commas. -/
def pairs (text : String) : List (List Char) := (Text.splitAt ',' text.toList).filter isPair

/-- What stands before the first colon. -/
def user (entry : List Char) : List Char := entry.takeWhile (· != ':')

/-- What stands behind the first colon. -/
def password (entry : List Char) : List Char := (entry.dropWhile (· != ':')).drop 1

/-- The header that an entry makes: its own text, in Base64 of its bytes. -/
def basic (entry : List Char) : String :=
  "Basic " ++ Base64.encode (Utf8.encode (String.ofList entry))

/-- The last pair of a text with the user of a given entry. -/
def latest (text : String) (first : List Char) : List Char :=
  ((pairs text).filter (user · == user first)).getLastD first

/-- The user and the password of an entry. -/
def parts (entry : List Char) : String × String :=
  (String.ofList (user entry), String.ofList (password entry))

/-! ## Entries -/

variable {entry : List Char}

/-- A pair is its user and its password, with the only colon between them. -/
theorem isPair_inv (pair : isPair entry = true) :
    entry = user entry ++ ':' :: password entry ∧ ':' ∉ user entry ∧ ':' ∉ password entry := by
  have counted : entry.count ':' = 1 := beq_iff_eq.mp pair
  have member : ':' ∈ entry := List.count_pos_iff.mp (by omega)
  obtain ⟨name, secret, rfl, clear⟩ := List.eq_append_cons_of_mem member
  have clear' : ':' ∉ secret := by
    rw [List.count_append, List.count_cons_self, List.count_eq_zero.mpr clear] at counted
    exact List.count_eq_zero.mp (by omega)
  have passes : ∀ c ∈ name, (c != ':') = true := by
    intro c member
    exact bne_iff_ne.mpr fun same => clear (same ▸ member)
  have isUser : user (name ++ ':' :: secret) = name := by
    simp [user, List.takeWhile_append_of_pos passes]
  have isPassword : password (name ++ ':' :: secret) = secret := by
    simp [password, List.dropWhile_append_of_pos passes]
  rw [isUser, isPassword]
  exact ⟨rfl, clear, clear'⟩

theorem pair?_eq (entry : List Char) :
    pair? entry = if isPair entry then some (parts entry) else none := by
  split
  · next pair =>
    obtain ⟨isEntry, clear, clear'⟩ := isPair_inv pair
    have both : Text.splitAt ':' entry = [user entry, password entry] :=
      calc Text.splitAt ':' entry
        _ = Text.splitAt ':' (user entry ++ ':' :: password entry) := congrArg _ isEntry
        _ = user entry :: Text.splitAt ':' (password entry) := Text.splitAt_append clear _
        _ = [user entry, password entry] := by rw [Text.splitAt_of_clear clear']
    rw [pair?, both]
    rfl
  · next other =>
    rw [pair?]
    split
    · next name secret both =>
      have counted := Text.length_splitAt ':' entry
      rw [both] at counted
      exact absurd (beq_iff_eq.mpr (Nat.succ.inj counted).symm) other
    · rfl

theorem parse_eq (text : String) : parse text =
    ((pairs text).map parts).foldl (fun users (name, secret) => put name secret users) [] := by
  have isPairs (list : List (List Char)) :
      list.filterMap pair? = (list.filter isPair).map parts := by
    rw [← List.filterMap_eq_map, List.filterMap_filter]
    exact congrArg (list.filterMap ·) (funext pair?_eq)
  rw [parse, pairs, ← isPairs]
  split
  · next empty =>
    rw [empty]
    rfl
  · rfl

theorem basicHeader_parts (pair : isPair entry = true) :
    basicHeader (parts entry).1 (parts entry).2 = basic entry := by
  have joined : (parts entry).1 ++ ":" ++ (parts entry).2 = String.ofList entry := by
    have isEntry := congrArg String.ofList (isPair_inv pair).1
    rw [isEntry, String.ofList_append, String.ofList_cons, parts, String.append_assoc]
    rfl
  rw [basicHeader, basic, joined]

/-- Different entries make different headers. -/
theorem basic_injective : Function.Injective basic := by
  intro entry other same
  have digits : Base64.encodeChars (Utf8.encode (String.ofList entry)) =
      Base64.encodeChars (Utf8.encode (String.ofList other)) :=
    String.ofList_injective ((String.append_right_inj _).mp same)
  have bytes := congrArg Base64.decode? digits
  rw [Base64.decode?_encodeChars, Base64.decode?_encodeChars] at bytes
  have texts := congrArg Utf8.decodeLossy (Option.some.inj bytes)
  rw [Utf8.decodeLossy_encode, Utf8.decodeLossy_encode] at texts
  exact String.ofList_injective texts

/-! ## Pairs by user -/

/-- Whatever pairs follow, the first user stays in front, with the password that it is given
last. -/
theorem head?_foldl_put (list : List (List Char)) (first : List Char)
    (rest : List (String × String)) :
    ((list.map parts).foldl (fun users (name, secret) => put name secret users)
        (parts first :: rest)).head? =
      some (parts ((list.filter (user · == user first)).getLastD first)) := by
  induction list generalizing first rest with
  | nil => rfl
  | cons next others ih =>
    show ((others.map parts).foldl _
      (put (parts next).1 (parts next).2 (parts first :: rest))).head? = _
    by_cases same : user next = user first
    · have kept : put (parts next).1 (parts next).2 (parts first :: rest) = parts next :: rest := by
        simp [put, parts, same]
      rw [kept, ih, List.filter_cons_of_pos (by simpa using same), List.getLastD_cons, same]
    · have other : String.ofList (user first) ≠ String.ofList (user next) :=
        fun equal => same (String.ofList_injective equal).symm
      have kept : put (parts next).1 (parts next).2 (parts first :: rest) =
          parts first :: put (parts next).1 (parts next).2 rest := by
        simp [put, parts, other]
      rw [kept, ih, List.filter_cons_of_neg (by simpa using same)]

theorem isPair_of_mem {text : String} (member : entry ∈ pairs text) : isPair entry = true :=
  (List.mem_filter.mp member).2

theorem isPair_latest {text : String} {first : List Char} (member : first ∈ pairs text) :
    isPair (latest text first) = true := by
  have inside : latest text first ∈ first :: (pairs text).filter (user · == user first) :=
    List.getLastD_mem_cons
  rcases List.mem_cons.mp inside with same | later
  · rw [same]
    exact isPair_of_mem member
  · exact isPair_of_mem (List.mem_filter.mp later).1

/-- The header is made of the first pair's user, with the password that the text gives last. -/
theorem header?_text (text : String) :
    header? (some text) = (pairs text).head?.map fun first => basic (latest text first) := by
  cases isPairs : pairs text with
  | nil =>
    rw [header?, Option.map_some, parse_eq, isPairs]
    rfl
  | cons first others =>
    have member : first ∈ pairs text := isPairs ▸ List.mem_cons_self
    have isLatest : latest text first = (others.filter (user · == user first)).getLastD first := by
      rw [latest, isPairs, List.filter_cons_of_pos (by simp), List.getLastD_cons]
    have parsed : (parse text).head? = some (parts (latest text first)) := by
      rw [parse_eq, isPairs, isLatest]
      exact head?_foldl_put others first []
    obtain ⟨rest, isParsed⟩ := List.head?_eq_some_iff.mp parsed
    rw [header?, Option.map_some, isParsed]
    exact congrArg some (basicHeader_parts (isPair_latest member))

end Credentials

/-! ## Requests of a hub -/

/-- The values of the header that shows who asks. -/
def Http.Request.authorizations (request : Http.Request) : List String :=
  (request.headers.filter (·.1 == "Authorization")).map (·.2)

namespace Hub

/-- What a hub is asked for: to take a message, to list keys, or to look at events again. -/
inductive Asks (hub : Hub) : {α : Type} → Action α → Prop where
  | submit (message : Message) : Asks hub (hub.submit message)
  | keys (account : Json) : Asks hub (hub.keysOf account)
  | retry (account : Json) : Asks hub (hub.retryEvents account)

variable {α : Type} {hub : Hub} {action : Action α}

theorem authorizations_authHeaders (hub : Hub) :
    (hub.authHeaders.filter (·.1 == "Authorization")).map (·.2) = hub.authorization.toList := by
  unfold authHeaders
  split <;> simp_all

/-- Every request of a hub shows its credential, if it has one, and no other. -/
theorem Asks.talks (asks : hub.Asks action) :
    Talks (fun request => request.authorizations = hub.authorization.toList) action := by
  have shown := hub.authorizations_authHeaders
  cases asks with
  | submit message =>
    refine .bind (.exchange shown) fun response => ?_
    exact .ite (fun _ => .pure _) fun _ => .throw _
  | keys account =>
    refine .bind (.exchange shown) fun response => ?_
    refine .ite (fun _ => .pure _) fun _ => .ite (fun _ => .throw _) fun _ => ?_
    exact .bind (.require _) fun _ => .require _
  | retry account =>
    intro before outcome after run
    unfold retryEvents at run
    rcases run.guard_inv with ⟨-, -, rfl⟩ | ⟨-, asking⟩
    · exact .refl _ _
    · refine Talks.bind (.exchange shown) (fun response => ?_) asking
      exact .ite (fun _ => .bind (.throw _) fun _ => .note _ _ _) fun _ => .note _ _ _

/-- What every request to a hub shows, given a text of credentials. Without pairs it is
nothing. With them it is the latest pair of the first one's user, which is the first pair
itself exactly if that user's password is the same in both. -/
theorem asks_first_credential_iff {text url : String}
    (asks : (ofUrl url (some text)).Asks action) :
    Talks (fun request =>
      (Credentials.pairs text = [] → request.authorizations = []) ∧
      ∀ first, (Credentials.pairs text).head? = some first →
        request.authorizations = [Credentials.basic (Credentials.latest text first)] ∧
        (request.authorizations = [Credentials.basic first] ↔
          Credentials.latest text first = first)) action := by
  refine asks.talks.mono ?_
  intro request shown
  rw [ofUrl, Credentials.header?_text] at shown
  refine ⟨?_, ?_⟩
  · intro none
    rw [shown, none]
    rfl
  · intro first isFirst
    rw [isFirst, Option.map_some, Option.toList_some] at shown
    refine ⟨shown, ?_⟩
    rw [shown, List.singleton_inj]
    exact Credentials.basic_injective.eq_iff

/-- Credentials with entries that are no pairs, and with a user that comes twice with one
password. -/
def sampleCredentials : String := "bad,a:b:c,,ann:pw,bob:,ann:pw"

theorem sampleCredentials_shown :
    (ofUrl "http://hub" (some sampleCredentials)).Asks
      ((ofUrl "http://hub" (some sampleCredentials)).keysOf (.int 7)) ∧
    Talks (fun request => request.authorizations = [Credentials.basic "ann:pw".toList])
      ((ofUrl "http://hub" (some sampleCredentials)).keysOf (.int 7)) := by
  have isFirst : (Credentials.pairs sampleCredentials).head? = some "ann:pw".toList := by
    decide +kernel
  have isLatest : Credentials.latest sampleCredentials "ann:pw".toList = "ann:pw".toList := by
    decide +kernel
  refine ⟨.keys _, (asks_first_credential_iff (.keys _)).mono ?_⟩
  intro request shown
  obtain ⟨-, shown⟩ := shown
  exact (shown _ isFirst).2.mpr isLatest

/-- A hub with a user that is given another password later. -/
def changedHub : Hub := ofUrl "http://hub" (some "ann:old,ann:new")

/-- A request to it shows the later password, not the first pair. -/
theorem changedHub_shows_later :
    (Credentials.pairs "ann:old,ann:new").head? = some "ann:old".toList ∧
    ∃ outcome after path, Runs (changedHub.keysOf (.int 7)) (Authorization.sampleSession [])
        outcome after ∧
      .requested (changedHub.listing (.int 7)) path ∈ after.journal ∧
      (changedHub.listing (.int 7)).authorizations = [Credentials.basic "ann:new".toList] ∧
      (changedHub.listing (.int 7)).authorizations ≠ [Credentials.basic "ann:old".toList] := by
  have isFirst : (Credentials.pairs "ann:old,ann:new").head? = some "ann:old".toList := by
    decide +kernel
  have isLatest : Credentials.latest "ann:old,ann:new" "ann:old".toList = "ann:new".toList := by
    decide +kernel
  have authorized : changedHub.authorization = some (Credentials.basic "ann:new".toList) := by
    rw [changedHub, ofUrl, Credentials.header?_text, isFirst, Option.map_some, isLatest]
  have shown : (changedHub.listing (.int 7)).authorizations =
      [Credentials.basic "ann:new".toList] := by
    rw [Http.Request.authorizations, listing, authorizations_authHeaders, authorized,
      Option.toList_some]
  obtain ⟨outcome, after, run⟩ :=
    Runs.exists_run (changedHub.keysOf (.int 7)) (Authorization.sampleSession [])
  have hasPath : Http.Location.path changedHub.listingUrl = .ok "/v1/onChainSignersByFid" :=
    rfl
  obtain ⟨-, reply, journal, -⟩ := keysOf_inv run hasPath (Authorization.plain_sampleSession nofun)
  refine ⟨isFirst, outcome, after, "/v1/onChainSignersByFid", run, ?_, shown, ?_⟩
  · rw [journal]
    cases reply <;> simp [Move.trace]
  · rw [shown, Ne, List.singleton_inj, Credentials.basic_injective.eq_iff]
    decide +kernel

end Hub

end Provisioning
