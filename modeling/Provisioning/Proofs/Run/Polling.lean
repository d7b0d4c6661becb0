import Provisioning.Proofs.Run.Settling

/-!
# Waiting for the hub

With polling, whoever waits for the hub to see a fresh key asks for listings, one interval
apart, and stops at the first one that shows the key or fails, or once as many were had as
the timeout has room for (`Authorization.poll_inv`). A key that stays hidden is followed by
one request to look again, and a key that was not shown by the settling delay, whatever came
of the requests. Main statement: `Authorization.settle_polls`.

What happens is told by the deeds of the journal, which are all of it but the notes:
`Does deeds before after` says that exactly these deeds lie between two sessions.
-/

namespace Provisioning

open Session

/-! ## Deeds -/

/-- Everything but notes is a deed. -/
def Happening.isDeed : Happening → Bool
  | .noted .. => false
  | .slept _ | .sent _ | .confirmed .. | .requested .. | .answered .. | .called .. | .printed _ =>
    true

/-- Exactly these deeds, in this order, lie between two sessions. -/
def Does (deeds : List Happening) (before after : Session) : Prop :=
  Leaves Happening.isDeed deeds before after

namespace Does

variable {deeds more : List Happening} {before middle after : Session}

theorem refl (session : Session) : Does [] session session :=
  Leaves.refl session

theorem trans (first : Does deeds before middle) (rest : Does more middle after) :
    Does (deeds ++ more) before after :=
  Leaves.trans first rest

theorem noted (session : Session) (level : Level) (source : Source) (text : String) :
    Does [] session { session with journal := session.journal ++ [.noted level source text] } :=
  ⟨[.noted level source text], rfl, rfl⟩

theorem after_note {level : Level} {source : Source} {text : String}
    (does : Does deeds { before with journal := before.journal ++ [.noted level source text] }
      after) : Does deeds before after :=
  (noted before level source text).trans does

/-- Nothing is done after the last deed. -/
theorem before_rest (does : Does deeds before middle) (rest : Does [] middle after) :
    Does deeds before after := by
  have both := does.trans rest
  rwa [List.append_nil] at both

/-- A request that is written down at once. -/
theorem of_exchange {request : Http.Request} {path : String} {reply : Option Http.Response}
    (journal : after.journal = before.journal ++ (Move.exchange request path reply).trace) :
    Does (Move.exchange request path reply).trace before after := by
  refine Leaves.of_journal journal ?_
  cases reply <;> simp [Move.trace, Happening.isDeed]

/-- Waiting is one deed, and leaves the peers alone. -/
theorem of_sleep {seconds : Binary64} {outcome : Except Failure Unit}
    (run : Runs (sleep seconds) before outcome after) :
    outcome = .ok () ∧ after.peers = before.peers ∧ Does [.slept seconds] before after := by
  obtain ⟨rfl, rfl⟩ := (Runs.record_bind run).modify_inv
  exact ⟨rfl, rfl, [.slept seconds], rfl, rfl⟩

/-- The deeds are what remains of the journal without its notes. -/
theorem filter_eq {new : List Happening} (does : Does deeds before after)
    (journal : after.journal = before.journal ++ new) : new.filter Happening.isDeed = deeds := by
  obtain ⟨new', journal', isDeeds⟩ := does
  cases List.append_cancel_left (journal.symm.trans journal')
  exact isDeeds

end Does

/-! ## Answers to a listing -/

namespace Hub

variable {hub : Hub} {account : Json} {key : Bytes} {path : String} {before after : Session}

/-- The answer is a listing with the key. -/
def Shows (key : Bytes) (reply : Option Http.Response) : Prop :=
  ∃ response document keys, reply = some response ∧ response.ok = true ∧
    response.document = .ok document ∧ listedKeys document = .ok keys ∧ key ∈ keys

/-- The answer is a listing without the key, or says that there is none. -/
def Hides (key : Bytes) (reply : Option Http.Response) : Prop :=
  ∃ response, reply = some response ∧ (response.status = 404 ∨ response.ok = true ∧
    ∃ document keys, response.document = .ok document ∧ listedKeys document = .ok keys ∧ key ∉ keys)

/-- There is no answer, or it reports another error. -/
def Fails : Option Http.Response → Prop
  | none => True
  | some response => response.status ≠ 404 ∧ response.ok = false

/-- What an answer to a listing tells of a key: whether the key is seen, or a failure. -/
inductive Sights (key : Bytes) : Option Http.Response → Except Failure Bool → Prop where
  | seen {reply : Option Http.Response} (shows : Shows key reply) : Sights key reply (.ok true)
  | unseen {reply : Option Http.Response} (hides : Hides key reply) : Sights key reply (.ok false)
  | failed {reply : Option Http.Response} {failure : Failure} (fails : Fails reply)
      (caught : Authorization.isOfHub failure = true) : Sights key reply (.error failure)
  | garbled {response : Http.Response} {failure : Failure} (unreadable : ¬Readable response)
      (escapes : Authorization.isOfHub failure = false) :
      Sights key (some response) (.error failure)

theorem Listed.sights {reply : Option Http.Response} {outcome : Except Failure (List Bytes)}
    (listed : Listed reply outcome) (key : Bytes) :
    Sights key reply (outcome.map (·.contains key)) := by
  cases listed with
  | lost caught => exact .failed trivial caught
  | missing status => exact .unseen ⟨_, rfl, .inl status⟩
  | refused status isError caught => exact .failed ⟨status, isError⟩ caught
  | @read _ document keys isOk isDocument isKeys =>
    show Sights key _ (.ok (keys.contains key))
    cases isKey : keys.contains key with
    | true =>
      have member : key ∈ keys := by simpa using isKey
      exact .seen ⟨_, document, keys, rfl, isOk, isDocument, isKeys, member⟩
    | false =>
      have missing : key ∉ keys := by simpa using isKey
      exact .unseen ⟨_, rfl, .inr ⟨isOk, document, keys, isDocument, isKeys, missing⟩⟩
  | garbled unreadable escapes => exact .garbled unreadable escapes

theorem keysOf_sights {outcome : Except Failure (List Bytes)}
    (run : Runs (hub.keysOf account) before outcome after)
    (hasPath : Http.Location.path hub.listingUrl = .ok path) (plain : before.peers.Plain)
    (key : Bytes) :
    after.peers.Plain ∧ ∃ reply,
      Does (Move.exchange (hub.listing account) path reply).trace before after ∧
        Sights key reply (outcome.map (·.contains key)) := by
  obtain ⟨kept, reply, journal, listed⟩ := keysOf_inv run hasPath plain
  exact ⟨kept, reply, .of_exchange journal, listed.sights key⟩

/-! ## Rounds of listings -/

/-- Listings one after another, with a wait between each two. -/
def rounds (hub : Hub) (account : Json) (path : String) (interval : Binary64)
    (replies : List (Option Http.Response)) : List Happening :=
  ((replies.map fun reply => (Move.exchange (hub.listing account) path reply).trace).intersperse
    [.slept interval]).flatten

theorem rounds_singleton (interval : Binary64) (reply : Option Http.Response) :
    hub.rounds account path interval [reply] =
      (Move.exchange (hub.listing account) path reply).trace := by
  simp [rounds]

theorem rounds_cons (interval : Binary64) (reply : Option Http.Response)
    {replies : List (Option Http.Response)} (more : replies ≠ []) :
    hub.rounds account path interval (reply :: replies) =
      (Move.exchange (hub.listing account) path reply).trace ++
        ([.slept interval] ++ hub.rounds account path interval replies) := by
  cases replies with
  | nil => exact absurd rfl more
  | cons next rest => simp [rounds]

theorem answered_mem_rounds {interval : Binary64} {replies : List (Option Http.Response)}
    {response : Http.Response} (member : some response ∈ replies) :
    .answered (hub.listing account) response ∈ hub.rounds account path interval replies := by
  induction replies with
  | nil => cases member
  | cons reply rest ih =>
    have here : .answered (hub.listing account) response ∈
        (Move.exchange (hub.listing account) path (some response)).trace := by
      simp [Move.trace]
    by_cases more : rest = []
    · subst more
      cases List.mem_singleton.mp member
      rw [rounds_singleton]
      exact here
    · rw [rounds_cons interval reply more]
      rcases List.mem_cons.mp member with rfl | inside
      · exact List.mem_append_left _ here
      · exact List.mem_append_right _ (List.mem_append_right _ (ih inside))

/-! ## The request to look again -/

/-- The request to look at the events of an account again. -/
def retry (hub : Hub) (account : Json) : Http.Request :=
  ⟨"POST", hub.retryUrl, [], hub.postHeaders, (Json.obj [("fid", account)]).plainBytes⟩

/-- The hub is asked to look again by one request; what it answers cannot matter to whoever
catches the hub's failures. -/
theorem retryEvents_inv {number : Int} {outcome : Except Failure Unit}
    (run : Runs (hub.retryEvents (.int number)) before outcome after) (positive : 1 ≤ number)
    (hasPath : Http.Location.path hub.retryUrl = .ok path) (plain : before.peers.Plain) :
    ∃ reply, Does (Move.exchange (hub.retry (.int number)) path reply).trace before after ∧
      ∀ failure, outcome = .error failure → Authorization.isOfHub failure = true := by
  have asks {outcome : Except Failure Http.Response} {after : Session}
      (asked : Runs (exchange (hub.retry (.int number))) before outcome after) :=
    exchange_replied asked hasPath plain
  rw [Hub.retryEvents] at run
  rcases Runs.guard_inv run with ⟨none, -⟩ | ⟨-, run⟩
  · exact absurd none (account_given positive)
  rcases run.bind_inv with ⟨response, middle, asked, rest⟩ | ⟨failure, asked, rfl⟩
  · obtain ⟨-, reply, journal, -⟩ := asks asked
    have does := Does.of_exchange journal
    rcases Runs.guard_inv rest with ⟨-, rfl, rfl⟩ | ⟨-, noting⟩
    · refine ⟨reply, does, ?_⟩
      rintro failure ⟨⟩
      rfl
    · obtain ⟨rfl, rfl⟩ := Runs.modify_inv noting
      exact ⟨reply, does.before_rest (.noted _ _ _ _), nofun⟩
  · obtain ⟨-, reply, journal, replied⟩ := asks asked
    cases replied
    refine ⟨none, .of_exchange journal, ?_⟩
    rintro failure ⟨⟩
    rfl

end Hub

/-! ## Polling -/

namespace Authorization

variable {settings : Settings} {hub : Hub} {account : Json} {key : Bytes} {path : String}
variable {before after : Session}

/-- What polling comes to: listings an interval apart, of which all but the last hide the
key, and the last one tells the outcome. -/
def Polled (hub : Hub) (account : Json) (key : Bytes) (path : String) (interval : Binary64)
    (retries : Nat) (before : Session) (outcome : Except Failure Bool) (after : Session) : Prop :=
  ∃ hidden last, Does (hub.rounds account path interval (hidden ++ [last])) before after ∧
    hidden.length ≤ retries ∧ (∀ reply ∈ hidden, Hub.Hides key reply) ∧
    Hub.Sights key last outcome

namespace Polled

variable {interval : Binary64} {retries : Nat} {reply : Option Http.Response}
variable {outcome : Except Failure Bool} {middle : Session}

/-- One listing, after which polling is over. -/
theorem of_listing
    (does : Does (Move.exchange (hub.listing account) path reply).trace before after)
    (sights : Hub.Sights key reply outcome) :
    Polled hub account key path interval retries before outcome after := by
  refine ⟨[], reply, ?_, Nat.zero_le _, by simp, sights⟩
  rw [List.nil_append, Hub.rounds_singleton]
  exact does

/-- A listing that hides the key, and a wait, in front of other listings. -/
theorem after_hidden
    (does : Does ((Move.exchange (hub.listing account) path reply).trace ++ [.slept interval])
      before middle) (hides : Hub.Hides key reply)
    (polled : Polled hub account key path interval retries middle outcome after) :
    Polled hub account key path interval (retries + 1) before outcome after := by
  obtain ⟨hidden, last, more, few, all, sights⟩ := polled
  refine ⟨reply :: hidden, last, ?_, Nat.succ_le_succ few, ?_, sights⟩
  · rw [List.cons_append, Hub.rounds_cons interval reply (by simp), ← List.append_assoc]
    exact does.trans more
  · exact List.forall_mem_cons.mpr ⟨hides, all⟩

end Polled

/-- Polling stops at the first listing that shows the key or fails, and in any case after
the retries. -/
theorem poll_inv {timeout interval start : Binary64} {retries : Nat}
    {outcome : Except Failure Bool}
    (run : Runs (poll hub account key timeout interval start retries) before outcome after)
    (hasPath : Http.Location.path hub.listingUrl = .ok path) (plain : before.peers.Plain) :
    after.peers.Plain ∧ Polled hub account key path interval retries before outcome after := by
  induction retries generalizing before with
  | zero =>
    rcases run.bind_inv with ⟨keys, middle, asked, rest⟩ | ⟨failure, asked, rfl⟩
    · obtain ⟨kept, reply, does, sights⟩ := Hub.keysOf_sights asked hasPath plain key
      obtain ⟨rfl, rfl⟩ := rest.pure_inv
      exact ⟨kept, .of_listing does sights⟩
    · obtain ⟨kept, reply, does, sights⟩ := Hub.keysOf_sights asked hasPath plain key
      exact ⟨kept, .of_listing does sights⟩
  | succ retries ih =>
    rcases run.bind_inv with ⟨keys, middle, asked, rest⟩ | ⟨failure, asked, rfl⟩
    · obtain ⟨kept, reply, does, sights⟩ := Hub.keysOf_sights asked hasPath plain key
      rw [Except.map] at sights
      split at rest
      · next shown =>
        obtain ⟨rfl, rfl⟩ := rest.pure_inv
        rw [shown] at sights
        exact ⟨kept, .of_listing does sights⟩
      next unshown =>
      rw [Bool.not_eq_true] at unshown
      rw [unshown] at sights
      have rest := rest.get_bind
      split at rest
      · obtain ⟨rfl, rfl⟩ := rest.pure_inv
        exact ⟨kept, .of_listing does sights⟩
      · cases sights with
        | unseen hides =>
          rcases rest.bind_inv with ⟨_, slept, waits, polls⟩ | ⟨failure, waits, -⟩
          · obtain ⟨-, peers, pause⟩ := Does.of_sleep waits
            obtain ⟨kept, polled⟩ := ih polls (peers ▸ kept)
            exact ⟨kept, polled.after_hidden (does.trans pause) hides⟩
          · cases (Does.of_sleep waits).1
    · obtain ⟨kept, reply, does, sights⟩ := Hub.keysOf_sights asked hasPath plain key
      exact ⟨kept, .of_listing does sights⟩

/-- How many listings more than one the timeout has room for: the whole part of the
timeout over the interval. -/
def mostRetries (settings : Settings) : Nat :=
  if settings.pollInterval.isInfinite then 0
  else (Binary64.floorQuotient settings.visibilityTimeout settings.pollInterval).toNat

theorem retries_ok (finite : settings.visibilityTimeout.isFinite = true)
    (positive : Binary64.zero.lt settings.pollInterval = true)
    (counted : settings.pollInterval.isInfinite = true ∨ (Binary64.ofInt (Binary64.floorQuotient
      settings.visibilityTimeout settings.pollInterval)).isInfinite = false) :
    retries settings.visibilityTimeout settings.pollInterval = .ok (mostRetries settings) := by
  have isOrdered : settings.pollInterval.isNaN = false ∧ 0 < settings.pollInterval.rank := by
    have notNaN : Binary64.zero.isNaN = false := by decide
    have rank : Binary64.zero.rank = 0 := by decide
    simpa [Binary64.lt, notNaN, rank] using positive
  obtain ⟨isNumber, isPositive⟩ := isOrdered
  have nonzero : settings.pollInterval.isZero = false := by
    refine Bool.eq_false_iff.mpr fun zero => ?_
    have magnitude : settings.pollInterval.magnitude = 0 := by simpa [Binary64.isZero] using zero
    rw [Binary64.rank, magnitude] at isPositive
    simp at isPositive
  have bounded : settings.visibilityTimeout.magnitude < Binary64.infiniteMagnitude := by
    simpa [Binary64.isFinite] using finite
  have isTimeout : settings.visibilityTimeout.isNaN = false := by
    simpa [Binary64.isNaN] using bounded.le
  have limited : settings.visibilityTimeout.isInfinite = false := by
    simpa [Binary64.isInfinite] using bounded.ne
  rw [retries, mostRetries, nonzero, isTimeout, isNumber, limited]
  rcases counted with infinite | known
  · simp [infinite]
  · cases settings.pollInterval.isInfinite <;> simp [known]

/-! ## Looking for the key -/

/-- What the last listing leads to: whether the key is seen, or a failure. Only if the key
stays hidden is the hub asked to look again, and then once. -/
inductive Ends (hub : Hub) (account : Json) (key : Bytes) :
    Option Http.Response → List Happening → Except Failure Bool → Prop where
  | seen {last : Option Http.Response} (shows : Hub.Shows key last) :
      Ends hub account key last [] (.ok true)
  | unseen {last : Option Http.Response} (hides : Hub.Hides key last) (path : String)
      (retried : Option Http.Response) :
      Ends hub account key last (Move.exchange (hub.retry account) path retried).trace (.ok false)
  | failed {last : Option Http.Response} (fails : Hub.Fails last) :
      Ends hub account key last [] (.ok false)
  | garbled {response : Http.Response} {failure : Failure}
      (unreadable : ¬Hub.Readable response) :
      Ends hub account key (some response) [] (.error failure)

/-- The listings of a polling, and what the last one leads to. -/
def Looks (settings : Settings) (hub : Hub) (account : Json) (key : Bytes) (path : String)
    (before : Session) (outcome : Except Failure Bool) (after : Session) : Prop :=
  ∃ hidden last retrying,
    Does (hub.rounds account path settings.pollInterval (hidden ++ [last]) ++ retrying)
      before after ∧
    hidden.length ≤ mostRetries settings ∧ (∀ reply ∈ hidden, Hub.Hides key reply) ∧
    Ends hub account key last retrying outcome

theorem Looks.before_rest {middle : Session} {outcome : Except Failure Bool}
    (looks : Looks settings hub account key path before outcome middle)
    (rest : Does [] middle after) : Looks settings hub account key path before outcome after := by
  obtain ⟨hidden, last, retrying, does, few, all, ends⟩ := looks
  exact ⟨hidden, last, retrying, does.before_rest rest, few, all, ends⟩

/-- A failure of the hub counts as not having seen the key. -/
def recovered : Except Failure Bool → Except Failure Bool
  | .ok seen => .ok seen
  | .error failure => if isOfHub failure then .ok false else .error failure

theorem awaitVisible_inv {outcome : Except Failure Bool}
    (run : Runs (awaitVisible settings hub account key) before outcome after)
    (isCount : retries settings.visibilityTimeout settings.pollInterval =
      .ok (mostRetries settings))
    (hasPath : Http.Location.path hub.listingUrl = .ok path) (plain : before.peers.Plain) :
    after.peers.Plain ∧ Polled hub account key path settings.pollInterval (mostRetries settings)
      before outcome after := by
  rw [awaitVisible, isCount] at run
  have run := run.require_ok_bind.get_bind
  rcases run.bind_inv with ⟨seen, middle, polls, rest⟩ | ⟨failure, polls, rfl⟩
  · obtain ⟨kept, hidden, last, does, few, all, sights⟩ := poll_inv polls hasPath plain
    split at rest
    · obtain ⟨rfl, rfl⟩ := rest.note_bind.pure_inv
      exact ⟨kept, hidden, last, does.before_rest (.noted _ _ _ _), few, all, sights⟩
    · obtain ⟨rfl, rfl⟩ := rest.pure_inv
      exact ⟨kept, hidden, last, does, few, all, sights⟩
  · exact poll_inv polls hasPath plain

/-- Once the hub's failures count as not having seen the key, the last listing decides. -/
theorem checkVisible_inv {number : Int} {outcome : Except Failure Bool}
    (run : Runs (checkVisible settings hub (.int number) key) before outcome after)
    (isCount : retries settings.visibilityTimeout settings.pollInterval =
      .ok (mostRetries settings)) (positive : 1 ≤ number)
    (hasPath : Http.Location.path hub.listingUrl = .ok path) (plain : before.peers.Plain) :
    Looks settings hub (.int number) key path before (recovered outcome) after := by
  rcases run.bind_inv with ⟨seen, middle, awaits, rest⟩ | ⟨failure, awaits, rfl⟩
  · obtain ⟨kept, hidden, last, does, few, all, sights⟩ :=
      awaitVisible_inv awaits isCount hasPath plain
    cases sights with
    | seen shows =>
      obtain ⟨rfl, rfl⟩ := rest.pure_inv
      exact ⟨hidden, last, [], does.trans (.refl _), few, all, .seen shows⟩
    | unseen hides =>
      obtain ⟨retryPath, isPath⟩ := Hub.Located.retry ⟨path, hasPath⟩
      rcases rest.note_bind.bind_inv with ⟨_, asked, asks, done⟩ | ⟨failure, asks, rfl⟩
      · obtain ⟨reply, retries, -⟩ := Hub.retryEvents_inv asks positive isPath kept
        obtain ⟨rfl, rfl⟩ := done.pure_inv
        exact ⟨hidden, last, _, does.trans retries.after_note, few, all,
          .unseen hides retryPath reply⟩
      · obtain ⟨reply, retries, caught⟩ := Hub.retryEvents_inv asks positive isPath kept
        rw [recovered, if_pos (caught failure rfl)]
        exact ⟨hidden, last, _, does.trans retries.after_note, few, all,
          .unseen hides retryPath reply⟩
  · obtain ⟨kept, hidden, last, does, few, all, sights⟩ :=
      awaitVisible_inv awaits isCount hasPath plain
    refine ⟨hidden, last, [], does.trans (.refl _), few, all, ?_⟩
    cases sights with
    | failed fails caught =>
      rw [recovered, if_pos caught]
      exact .failed fails
    | garbled unreadable escapes =>
      rw [recovered, if_neg (by simp [escapes])]
      exact .garbled unreadable

theorem isVisible_inv {number : Int} {outcome : Except Failure Bool}
    (run : Runs (isVisible settings hub (.int number) key) before outcome after)
    (polls : settings.pollsVisibility = true)
    (isCount : retries settings.visibilityTimeout settings.pollInterval =
      .ok (mostRetries settings)) (positive : 1 ≤ number)
    (hasPath : Http.Location.path hub.listingUrl = .ok path) (plain : before.peers.Plain) :
    Looks settings hub (.int number) key path before outcome after := by
  rw [isVisible, if_neg (by simp [polls])] at run
  rcases run.tryCatch_inv with ⟨seen, checks, rfl⟩ | ⟨failure, middle, checks, handled⟩
  · exact checkVisible_inv checks isCount positive hasPath plain
  · have looks := checkVisible_inv checks isCount positive hasPath plain
    rw [recovered] at looks
    split at handled
    · next caught =>
      obtain ⟨rfl, rfl⟩ := handled.note_bind.pure_inv
      rw [if_pos caught] at looks
      exact looks.before_rest (.noted _ _ _ _)
    · next escapes =>
      obtain ⟨rfl, rfl⟩ := handled.throw_inv
      rwa [if_neg escapes] at looks

/-! ## Settling -/

/-- The delay that is left to the hub, if there is any. -/
def delay (settings : Settings) : List Happening :=
  if Binary64.zero.lt settings.settleSeconds then [.slept settings.settleSeconds] else []

/-- Settling waits for the delay unless the key was seen, and fails only if looking did. -/
theorem settle_inv {number : Int} {outcome : Except Failure Unit}
    (run : Runs (settle settings hub (.int number) key) before outcome after) :
    (∃ seen looked, Runs (isVisible settings hub (.int number) key) before (.ok seen) looked ∧
      outcome = .ok () ∧ Does (if seen then [] else delay settings) looked after) ∨
    ∃ failure, Runs (isVisible settings hub (.int number) key) before (.error failure) after ∧
      outcome = .error failure := by
  rcases run.bind_inv with ⟨seen, looked, looks, rest⟩ | ⟨failure, looks, rfl⟩
  · refine .inl ⟨seen, looked, looks, ?_⟩
    cases seen with
    | true =>
      obtain ⟨rfl, rfl⟩ := rest.pure_inv
      exact ⟨rfl, .refl _⟩
    | false =>
      rw [if_neg Bool.false_ne_true] at rest ⊢
      dsimp only at rest
      rw [delay]
      split at rest
      · next positive =>
        obtain ⟨rfl, -, waits⟩ := Does.of_sleep rest.note_bind
        rw [if_pos positive]
        exact ⟨rfl, waits.after_note⟩
      · next zero =>
        obtain ⟨rfl, rfl⟩ := rest.pure_inv
        rw [if_neg zero]
        exact ⟨rfl, .refl _⟩
  · exact .inr ⟨failure, looks, rfl⟩

/-- Settling with polling ends well, whatever readable listings the hub answers with, if it
answers at all. It asks for one listing more than the timeout has room for at most, an
interval apart. After a listing that shows the key nothing else is done; after one that fails
the delay follows; and after one that hides the key the hub is asked once to look again, and
then the delay follows as well. -/
theorem settle_polls {number : Int} {outcome : Except Failure Unit} {new : List Happening}
    (run : Runs (settle settings hub (.int number) key) before outcome after)
    (journal : after.journal = before.journal ++ new)
    (polls : settings.pollsVisibility = true)
    (finite : settings.visibilityTimeout.isFinite = true)
    (positive : Binary64.zero.lt settings.pollInterval = true)
    (counted : settings.pollInterval.isInfinite = true ∨ (Binary64.ofInt (Binary64.floorQuotient
      settings.visibilityTimeout settings.pollInterval)).isInfinite = false)
    (isAccount : 1 ≤ number) (hasPath : Http.Location.path hub.listingUrl = .ok path)
    (plain : before.peers.Plain) (readable : hub.ListsReadably new) :
    outcome = .ok () ∧ ∃ hidden last retrying seen,
      new.filter Happening.isDeed =
        hub.rounds (.int number) path settings.pollInterval (hidden ++ [last]) ++ retrying ++
          (if seen then [] else delay settings) ∧
      (hidden ++ [last]).length ≤ mostRetries settings + 1 ∧
      (∀ reply ∈ hidden, Hub.Hides key reply) ∧
      Ends hub (.int number) key last retrying (.ok seen) := by
  have isCount := retries_ok finite positive counted
  have looks {seen : Except Failure Bool} {looked : Session}
      (looking : Runs (isVisible settings hub (.int number) key) before seen looked) :=
    isVisible_inv looking polls isCount isAccount hasPath plain
  rcases settle_inv run with ⟨seen, looked, looking, rfl, waits⟩ | ⟨failure, looking, rfl⟩
  · obtain ⟨hidden, last, retrying, does, few, all, ends⟩ := looks looking
    refine ⟨rfl, hidden, last, retrying, seen, (does.trans waits).filter_eq journal, ?_, all, ends⟩
    rw [List.length_append]
    exact Nat.succ_le_succ few
  · -- Looking fails only on a listing that cannot be read, and there is none.
    obtain ⟨hidden, last, retrying, does, few, all, ends⟩ := looks looking
    cases ends with
    | @garbled response _ unreadable =>
      have last : some response ∈ hidden ++ [some response] := by simp
      have answered : .answered (hub.listing (.int number)) response ∈
          new.filter Happening.isDeed := by
        rw [does.filter_eq journal]
        exact List.mem_append_left _ (Hub.answered_mem_rounds last)
      have member := (List.mem_filter.mp answered).1
      exact absurd (readable _ response member ⟨rfl, rfl⟩) unreadable

/-! ### A hub that is slow to see a key -/

/-- Settings with polling, and time for three listings. -/
def unhurriedSettings : Settings :=
  { sampleSettings with
    visibilityTimeout := Binary64.ofInt 4
    pollInterval := Binary64.ofInt 2
    settleSeconds := Binary64.ofInt 3 }

/-- The hub knows no listing, lists nothing, again knows none, and does not answer when asked
to look again. -/
def hesitant : List Answer :=
  [Peers.answerOf ⟨404, [], []⟩, Peers.answerOf ⟨200, Utf8.encode "\x7b\"events\": []\x7d", []⟩,
    Peers.answerOf ⟨404, [], []⟩, ⟨[], .lost "reset"⟩]

/-- What is left of settling with such a hub. -/
def hesitantRun : Except Failure Unit × Session :=
  StateT.run (ExceptT.run (settle unhurriedSettings sampleHub (.int 7) [1]))
    (sampleSession hesitant)

set_option maxRecDepth 4000 in
theorem hesitant_answered :
    hesitantRun.2.journal.all (fun happening =>
      match happening with
      | .answered _ response =>
        !response.ok || match response.document with
          | .ok document => (Hub.listedKeys document).isOk
          | .error _ => false
      | _ => true) = true ∧
    hesitantRun.2.journal.filterMap (fun happening =>
      match happening with
      | .slept seconds => some seconds
      | _ => none) = [Binary64.ofInt 2, Binary64.ofInt 2, Binary64.ofInt 3] := by
  decide +kernel

/-- Three listings with a wait between each two, the lost request to look again, and the
delay. -/
theorem hesitant_settled :
    hesitantRun.1 = .ok () ∧
    hesitantRun.2.journal.filterMap (fun happening =>
      match happening with
      | .slept seconds => some seconds
      | _ => none) = [Binary64.ofInt 2, Binary64.ofInt 2, Binary64.ofInt 3] ∧
    ∃ hidden last retrying seen,
      hesitantRun.2.journal.filter Happening.isDeed =
        sampleHub.rounds (.int 7) "/v1/onChainSignersByFid" (Binary64.ofInt 2)
            (hidden ++ [last]) ++ retrying ++
          (if seen then [] else [.slept (Binary64.ofInt 3)]) ∧
      (hidden ++ [last]).length ≤ 3 ∧ (∀ reply ∈ hidden, Hub.Hides [1] reply) ∧
      Ends sampleHub (.int 7) [1] last retrying (.ok seen) := by
  obtain ⟨answered, waited⟩ := hesitant_answered
  have ran : Runs (settle unhurriedSettings sampleHub (.int 7) [1]) (sampleSession hesitant)
      hesitantRun.1 hesitantRun.2 := .run _ _
  have plain : (sampleSession hesitant).peers.Plain :=
    plain_sampleSession (by simp [hesitant, Peers.answerOf, Reply.IsPlain])
  have readable : sampleHub.ListsReadably hesitantRun.2.journal := by
    intro request response member _ isOk
    have read := List.all_eq_true.mp answered _ member
    simp only [isOk, Bool.not_true, Bool.false_or] at read
    cases isDocument : response.document with
    | error => simp [isDocument] at read
    | ok document =>
      simp only [isDocument] at read
      refine ⟨document, rfl, (Hub.listedKeys_ok_iff document).mp ?_⟩
      cases isKeys : Hub.listedKeys document with
      | ok keys => exact ⟨keys, rfl⟩
      | error => simp [isKeys, Except.isOk, Except.toBool] at read
  have room : mostRetries unhurriedSettings = 2 := by decide +kernel
  have settled := settle_polls ran (List.nil_append _).symm rfl (by decide +kernel)
    (by decide +kernel) (.inr (by decide +kernel)) (by decide) rfl plain readable
  obtain ⟨isOk, hidden, last, retrying, seen, deeds, few, all, ends⟩ := settled
  rw [room] at few
  exact ⟨isOk, waited, hidden, last, retrying, seen, deeds, few, all, ends⟩

end Authorization

end Provisioning
