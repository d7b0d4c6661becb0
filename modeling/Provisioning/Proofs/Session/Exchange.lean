import Provisioning.Naming
import Provisioning.Hub
import Provisioning.Proofs.Session.Talk

/-!
# Exchanges with the peers

What a request can come to (`Session.exchange_inv`): its location has no path and
nothing is sent; or it is sent, and then answered, lost on the way, or broken off by the
fault of a simulated service. In every case it is talk (`Talks.exchange`), and so is
what the hub and the naming authority are asked. Peers without services break nothing off,
and stay without them (`Peers.Plain`).
-/

namespace Provisioning

/-! ## Peers without services -/

/-- A response, or none for a reason. -/
def Reply.IsPlain : Reply → Prop
  | .respond _ | .lost _ => True
  | .serve _ => False

namespace Peers

/-- No answer of the peers comes from a simulated service. -/
structure Plain (peers : Peers) : Prop where
  queue : ∀ answer ∈ peers.queue, answer.reply.IsPlain
  routes : ∀ route ∈ peers.routes, ∀ answer ∈ route.answers, answer.reply.IsPlain

theorem takeRoute_plain {method path : String} {routes : List Route}
    (plain : ∀ route ∈ routes, ∀ answer ∈ route.answers, answer.reply.IsPlain) :
    (takeRoute method path routes).1.reply.IsPlain ∧
      ∀ route ∈ (takeRoute method path routes).2, ∀ answer ∈ route.answers,
        answer.reply.IsPlain := by
  induction routes with
  | nil => exact ⟨trivial, plain⟩
  | cons route rest ih =>
    obtain ⟨here, others⟩ := List.forall_mem_cons.mp plain
    unfold takeRoute
    split
    · refine ⟨?_, List.forall_mem_cons.mpr ⟨?_, others⟩⟩
      · cases first : route.answers with
        | nil => trivial
        | cons answer more => exact here answer (by simp [first])
      · intro answer member
        exact here answer (Script.mem_of_mem_afterFirst member)
    · obtain ⟨reply, kept⟩ := ih others
      exact ⟨reply, List.forall_mem_cons.mpr ⟨here, kept⟩⟩

theorem Plain.take {peers : Peers} (plain : peers.Plain) (method path : String) :
    (peers.take method path).1.reply.IsPlain ∧ (peers.take method path).2.Plain := by
  unfold Peers.take
  split
  · next answer rest isQueue =>
    obtain ⟨here, others⟩ := List.forall_mem_cons.mp (isQueue ▸ plain.queue)
    exact ⟨here, others, plain.routes⟩
  · obtain ⟨reply, routes⟩ := takeRoute_plain plain.routes
    exact ⟨reply, plain.queue, routes⟩

end Peers

namespace Session

variable {before after : Session}

theorem forM_advance_inv {delays : List Binary64} {outcome : Except Failure PUnit}
    (run : Runs (delays.forM advance) before outcome after) :
    outcome = .ok ⟨⟩ ∧ ∃ clock, after = { before with clock } := by
  induction delays generalizing before with
  | nil =>
    obtain ⟨rfl, rfl⟩ := run.pure_inv
    exact ⟨rfl, _, rfl⟩
  | cons delay rest ih =>
    have run : Runs (advance delay >>= fun _ => rest.forM advance) before outcome after := run
    obtain ⟨isOk, clock, rfl⟩ := ih run.modify_bind
    exact ⟨isOk, clock, rfl⟩

/-- Taking an answer changes the clock and the peers, and cannot fail. -/
theorem takeAnswer_inv {method path : String} {outcome : Except Failure Reply}
    (run : Runs (takeAnswer method path) before outcome after) :
    outcome = .ok (before.peers.take method path).1.reply ∧
      ∃ clock, after = { before with clock, peers := (before.peers.take method path).2 } := by
  rcases (Runs.modify_bind (Runs.get_bind run)).bind_inv with
    ⟨_, middle, waited, rest⟩ | ⟨failure, waited, -⟩
  · obtain ⟨-, clock, rfl⟩ := forM_advance_inv waited
    obtain ⟨rfl, rfl⟩ := rest.pure_inv
    exact ⟨rfl, clock, rfl⟩
  · cases (forM_advance_inv waited).1

/-- What comes of a reply: a response, a loss, or the fault of a service. Only services
change the peers. -/
theorem respond_inv {request : Http.Request} {reply : Reply}
    {outcome : Except Failure Http.Response}
    (run : Runs (respond request reply) before outcome after) :
    ∃ peers, after = { before with peers } ∧ (reply.IsPlain → peers = before.peers) ∧
      ((∃ response, outcome = .ok response) ∨
        (∃ reason, outcome = .error (.transport request.method request.url reason none)) ∨
        ∃ fault, ¬reply.IsPlain ∧ outcome = .error (.fault fault)) := by
  cases reply with
  | respond response =>
    obtain ⟨rfl, rfl⟩ := run.pure_inv
    exact ⟨_, rfl, fun _ => rfl, .inl ⟨response, rfl⟩⟩
  | lost reason =>
    obtain ⟨rfl, rfl⟩ := run.throw_inv
    exact ⟨_, rfl, fun _ => rfl, .inr (.inl ⟨reason, rfl⟩)⟩
  | serve service =>
    rcases Runs.require_bind (Runs.get_bind run) with
      ⟨⟨response, peers⟩, -, rest⟩ | ⟨fault, -, rfl, rfl⟩
    · obtain ⟨rfl, rfl⟩ := (Runs.modify_bind rest).pure_inv
      exact ⟨_, rfl, False.elim, .inl ⟨response, rfl⟩⟩
    · exact ⟨_, rfl, False.elim, .inr (.inr ⟨fault, id, rfl⟩)⟩

/-- What a request comes to. -/
inductive Exchanged (request : Http.Request) (before : Session) :
    Except Failure Http.Response → Session → Prop where
  | nowhere {fault : Fault} (noPath : Http.Location.path request.url = .error fault) :
      Exchanged request before (.error (.fault fault)) before
  | answered {path : String} {response : Http.Response} {clock : Clock} {peers : Peers}
      (hasPath : Http.Location.path request.url = .ok path)
      (plain : before.peers.Plain → peers.Plain) :
      Exchanged request before (.ok response) { before with
        clock, peers
        journal := before.journal ++ [.requested request path, .answered request response] }
  | lost {path reason : String} {clock : Clock} {peers : Peers}
      (hasPath : Http.Location.path request.url = .ok path)
      (plain : before.peers.Plain → peers.Plain) :
      Exchanged request before
        (.error (.transport request.method request.url reason none)) { before with
          clock, peers, journal := before.journal ++ [.requested request path] }
  | broken {path : String} {fault : Fault} {clock : Clock} {peers : Peers}
      (served : ¬before.peers.Plain) :
      Exchanged request before (.error (.fault fault)) { before with
        clock, peers, journal := before.journal ++ [.requested request path] }

theorem exchange_inv {request : Http.Request} {outcome : Except Failure Http.Response}
    (run : Runs (exchange request) before outcome after) :
    Exchanged request before outcome after := by
  rcases Runs.require_bind run with ⟨path, hasPath, sending⟩ | ⟨fault, noPath, rfl, rfl⟩
  · rcases (Runs.record_bind sending).bind_inv with
      ⟨reply, middle, taken, responding⟩ | ⟨failure, taken, -⟩
    · obtain ⟨isReply, clock, rfl⟩ := takeAnswer_inv taken
      cases isReply
      have plain (all : before.peers.Plain) := all.take request.method path
      rcases responding.bind_inv with ⟨response, middle, responded, rest⟩ | ⟨failure, failed, rfl⟩
      · obtain ⟨peers, rfl, same, -⟩ := respond_inv responded
        obtain ⟨rfl, rfl⟩ := (Runs.record_bind rest).pure_inv
        have journal := List.append_assoc before.journal [.requested request path]
          [.answered request response]
        have answered : Exchanged request before (.ok response) { before with
            clock, peers
            journal := before.journal ++
              [.requested request path, .answered request response] } :=
          .answered hasPath fun all => same (plain all).1 ▸ (plain all).2
        rw [← List.singleton_append, ← journal] at answered
        exact answered
      · obtain ⟨peers, rfl, same, ⟨_, isOk⟩ | ⟨reason, isLoss⟩ | ⟨fault, served, isFault⟩⟩ :=
          respond_inv failed
        · cases isOk
        · cases isLoss
          exact .lost hasPath fun all => same (plain all).1 ▸ (plain all).2
        · cases isFault
          exact .broken fun all => served (plain all).1
    · cases (takeAnswer_inv taken).1
  · exact .nowhere noPath

end Session

/-! ## Requests as talk -/

namespace Talks

variable {fits : Http.Request → Prop}

theorem exchange {request : Http.Request} (fit : fits request) :
    Talks fits (Session.exchange request) := by
  intro before outcome after run
  cases Session.exchange_inv run with
  | nowhere noPath => exact .refl fits _
  | answered hasPath plain => exact .of_request fit (by simpa [Happening.IsTalk] using fit)
  | lost hasPath plain => exact .of_request fit (by simpa [Happening.IsTalk] using fit)
  | broken served => exact .of_request fit (by simpa [Happening.IsTalk] using fit)

end Talks

namespace Hub

/-- The requests that a hub gets for the keys of an account. -/
def IsListing (hub : Hub) (request : Http.Request) : Prop :=
  request.method = "GET" ∧ request.url = hub.base ++ "/v1/onChainSignersByFid"

def IsRetry (hub : Hub) (request : Http.Request) : Prop :=
  request.method = "POST" ∧ request.url = hub.base ++ "/v1/admin/retryOnchainEvents"

def IsSubmission (hub : Hub) (request : Http.Request) : Prop :=
  request.method = "POST" ∧ request.url = hub.base ++ "/v1/submitMessage"

theorem talks_keysOf (hub : Hub) (account : Json) : Talks hub.IsListing (hub.keysOf account) := by
  refine .bind (.exchange ⟨rfl, rfl⟩) ?_
  intro response
  refine .ite (fun _ => .pure _) fun _ => .ite (fun _ => .throw _) fun _ => ?_
  exact .bind (.require _) fun _ => .require _

theorem talks_retryEvents (hub : Hub) (account : Json) :
    Talks hub.IsRetry (hub.retryEvents account) := by
  have asks : Talks hub.IsRetry (do
      let response ← Session.post (hub.base ++ "/v1/admin/retryOnchainEvents")
        (Json.obj [("fid", account)]).plainBytes hub.postHeaders
      if !response.ok then
        throw (.hub (s!"retryOnchainEvents({account.text}) failed: HTTP " ++
          s!"{Numeral.intText response.status}: {response.text}"))
      Session.note .info .hub s!"Requested on-chain event retry for fid {account.text}") := by
    refine .bind (.exchange ⟨rfl, rfl⟩) ?_
    intro response
    exact .ite (fun _ => .bind (.throw _) fun _ => .note _ _ _) fun _ => .note _ _ _
  exact .ite (fun _ => .bind (.throw _) fun _ => asks) fun _ => asks

end Hub

namespace NamingAuthority

/-- The requests that a naming authority gets. -/
def IsAsked (authority : NamingAuthority) (request : Http.Request) : Prop :=
  (request.method = "GET" ∧ request.url = authority.base ++ "/transfers/current") ∨
    (request.method = "POST" ∧ request.url = authority.base ++ "/transfers")

theorem talks_lookup (authority : NamingAuthority) (account : Json) :
    Talks authority.IsAsked (authority.lookup account) := by
  refine .bind (.exchange (.inl ⟨rfl, rfl⟩)) ?_
  intro response
  refine .ite (fun _ => .pure _) fun _ => .ite (fun _ => .throw _) fun _ => ?_
  split
  · exact .pure _
  · exact .throw _

theorem talks_claim (authority : NamingAuthority) (custody : CustodySigner) (account : Json)
    (owner : String) : Talks authority.IsAsked (authority.claim custody account owner) := by
  refine .bind .unixTime fun timestamp => .bind (.require _) fun signature => ?_
  refine .bind (.note _ _ _) fun _ => .bind (.exchange (.inr ⟨rfl, rfl⟩)) fun response => ?_
  have done : Talks authority.IsAsked (do
      Session.note .info .naming
        s!"Name {Text.quoted (fallbackName account)} registered for fid {account.text}"
      return fallbackName account) := .bind (.note _ _ _) fun _ => .pure _
  exact .ite (fun _ => .bind (.throw _) fun _ => done) fun _ => done

theorem talks_ensure (authority : NamingAuthority) (custody : CustodySigner) (account : Json)
    (owner : String) : Talks authority.IsAsked (authority.ensure custody account owner) := by
  refine .bind (authority.talks_lookup account) ?_
  intro known
  cases known with
  | some name => exact .bind (.note _ _ _) fun _ => .pure _
  | none =>
    have claims : Talks authority.IsAsked (do
        return Json.str (← authority.claim custody account owner)) :=
      .bind (authority.talks_claim custody account owner) fun _ => .pure _
    exact .ite (fun _ => .bind (.throw _) fun _ => claims) fun _ => claims

end NamingAuthority

end Provisioning
