import Gateway.Proofs.Dispatch
import Gateway.Proofs.Url.Parsed

/- What is left of the body of a request when the network has failed to pass it on. A
   backend that fails has been passed some chunks of the body, and these are gone:
   `proxy_run_of_backend_failure` says that the next handler starts on the rest. So a
   handler that reads the body answers as it would without any rule only if no text was
   passed on (`answersAlike_iff`). -/
namespace Gateway

/-- The chunks that a backend has been passed when it replies. -/
def Moment.taken : Moment → List String → List String
  | .after n, chunks => chunks.take n
  | .atEnd, chunks => chunks

/-- The chunks that it has not been passed. -/
def Moment.spared : Moment → List String → List String
  | .after n, chunks => chunks.drop n
  | .atEnd, _ => []

theorem Moment.taken_append_spared (m : Moment) (chunks : List String) :
    m.taken chunks ++ m.spared chunks = chunks := by
  cases m with
  | after n => exact List.take_append_drop n chunks
  | atEnd => exact List.append_nil chunks

/-- The backend fails with this, and before the body of the client does. -/
structure Backend.FailsWith (b : Backend) (body : Stream) (e : Thrown) : Prop where
  reply : b.reply = .failure e
  inTime : b.moment = .atEnd → body.ending = .complete

/-! ## Runs of a transfer -/

namespace Transfer
open Backend (chunkEvents endEvents replyEvent)

variable (host : String)

/-- The state after these events. -/
def after (t : Transfer) (events : List TransferEvent) : Transfer := events.foldl (step host) t

theorem after_append (t : Transfer) (a b : List TransferEvent) :
    after host t (a ++ b) = after host (after host t a) b := List.foldl_append

section
variable {t : Transfer} (ht : t.broken = false)
include ht

theorem step_chunk (text : String) :
    step host t (.chunk text) = { t with sent := t.sent ++ [text] } := by simp [step, ht]

theorem step_bodyEnded : step host t .bodyEnded = { t with complete := true } := by
  simp [step, ht]

theorem step_answered (status : Option Number) (headers : Headers) (body : Stream) :
    step host t (.answered status headers body) =
      t.settle (.ok (response status headers body)) := by simp [step, ht]

/-- A failure gives the transfer up. -/
theorem step_bodyFailed (reason : String) :
    step host t (.bodyFailed reason) =
      { t.settle (.error (.backendFailed host (.failure reason none))) with broken := true } := by
  simp [step, ht]

theorem step_requestFailed (e : Thrown) :
    step host t (.requestFailed e) =
      { t.settle (.error (.backendFailed host e)) with broken := true } := by simp [step, ht]

end

theorem after_chunks {t : Transfer} (ht : t.broken = false) (chunks : List String) :
    after host t (chunkEvents chunks) = { t with sent := t.sent ++ chunks } := by
  induction chunks generalizing t with
  | nil => simp [after, chunkEvents]
  | cons c rest ih =>
    -- a chunk does not give the transfer up, so `ht` holds of the next state too
    calc after host t (chunkEvents (c :: rest))
        = after host (step host t (.chunk c)) (chunkEvents rest) := rfl
      _ = after host { t with sent := t.sent ++ [c] } (chunkEvents rest) := by
        rw [step_chunk host ht]
      _ = { t with sent := t.sent ++ c :: rest } := by
        rw [ih (t := { t with sent := t.sent ++ [c] }) ht]; simp

/-- A transfer that is given up leaves what still comes. -/
theorem after_broken {t : Transfer} (ht : t.broken = true) (chunks : List String) :
    after host t (chunkEvents chunks) = { t with left := t.left ++ chunks } := by
  induction chunks generalizing t with
  | nil => simp [after, chunkEvents]
  | cons c rest ih =>
    have hstep : step host t (.chunk c) = { t with left := t.left ++ [c] } := by
      simp [step, ht, stepBroken]
    calc after host t (chunkEvents (c :: rest))
        = after host (step host t (.chunk c)) (chunkEvents rest) := rfl
      _ = after host { t with left := t.left ++ [c] } (chunkEvents rest) := by rw [hstep]
      _ = { t with left := t.left ++ c :: rest } := by
        rw [ih (t := { t with left := t.left ++ [c] }) ht]; simp

/-- The end of the client's body changes nothing then. -/
theorem after_broken_end {t : Transfer} (ht : t.broken = true) (ending : Ending) :
    after host t (endEvents ending) = t := by
  cases ending <;> simp [after, endEvents, step, ht, stepBroken]

/-- When the backend fails, the transfer is settled by that failure, and what the backend
    has not been passed is left. -/
theorem run_of_failure (d : Dispatch) {b : Backend} {e : Thrown} {body : Stream}
    (h : b.FailsWith body e) :
    (run host d (b.events body)).outcome = some (.error (.backendFailed host e)) ∧
      (run host d (b.events body)).left = b.moment.spared body.chunks := by
  have hreply := h.reply
  have hrun : run host d (b.events body) = after host (start d) (b.events body) := rfl
  have hstart (chunks : List String) :
      after host (start d) (chunkEvents chunks) = { start d with sent := chunks } := by
    rw [after_chunks host rfl]; rfl
  rw [hrun]
  cases hm : b.moment with
  | after n =>
    -- three stretches: what is passed on, the failure, and what nobody takes any more
    have hevents : b.events body = chunkEvents (body.chunks.take n) ++
        ([.requestFailed e] ++ (chunkEvents (body.chunks.drop n) ++ endEvents body.ending)) := by
      simp [Backend.events, hm, hreply, replyEvent]
    have hfail (chunks : List String) :
        after host { start d with sent := chunks } [.requestFailed e] =
          ⟨d, chunks, [], false, true, some (.error (.backendFailed host e))⟩ :=
      step_requestFailed host (t := { start d with sent := chunks }) rfl e
    rw [hevents, after_append, after_append, after_append, hstart, hfail,
      after_broken host rfl, after_broken_end host rfl]
    exact ⟨rfl, rfl⟩
  | atEnd =>
    -- the backend knows of the end, so the whole body has been passed on
    have hbody := h.inTime hm
    have hevents : b.events body =
        chunkEvents body.chunks ++ ([.bodyEnded] ++ [.requestFailed e]) := by
      simp [Backend.events, hm, hreply, hbody, replyEvent, endEvents]
    rw [hevents, after_append, after_append, hstart]
    exact ⟨rfl, rfl⟩

end Transfer

/-! ## The stage over a network -/

namespace Forwarder

/-- How a backend is asked for a request, and what it does. -/
def backendOf (network : Network) (base : Url) (r : Request) : Backend := network (dispatch base r)

theorem expectedProtocol_eq {base : Url} (h : base.IsWeb) :
    base.protocol = expectedProtocol base := by
  rcases h with h | h <;> simp [Url.protocol, expectedProtocol, h]

/-- What is sent to a server is a run with the events that the backend's behaviour gives. -/
theorem send_eq {base : Url} (hbase : base.IsWeb) (network : Network) (r : Request) (x : Exchange) :
    send network base r x =
      let t := Transfer.run base.authority (dispatch base r) ((backendOf network base r).events x.inbound)
      (outcomeOf t.outcome,
        ⟨x.journal ++ [.dispatched { dispatch base r with passed := t.passed, received := t.received }],
          { x.inbound with chunks := t.left }⟩) := by
  rw [send, if_pos (expectedProtocol_eq hbase)]
  rfl

/-- A failure of the backend leaves what it has not been passed. -/
theorem send_of_failure {network : Network} {base : Url} {r : Request} {e : Thrown} {x : Exchange}
    (hbase : base.IsWeb) (hfails : (backendOf network base r).FailsWith x.inbound e) :
    ∃ journal, send network base r x =
      (.failed (.backendFailed base.authority e), ⟨journal, { x.inbound with
        chunks := (backendOf network base r).moment.spared x.inbound.chunks }⟩) := by
  obtain ⟨hout, hleft⟩ := Transfer.run_of_failure base.authority (dispatch base r) hfails
  rw [send_eq hbase]
  simp only [hout, hleft, outcomeOf]
  exact ⟨_, rfl⟩

end Forwarder

namespace Middleware

/-- What becomes of an outcome when its value is changed. -/
def mapOutcome {α β : Type} (g : α → β) : Outcome Thrown α → Outcome Thrown β
  | .done a => .done (g a)
  | .failed e => .failed e
  | .pending => .pending

theorem map_outcome {α β : Type} (g : α → β) (x : Effect α) (y : Exchange) :
    ((g <$> x) y).1 = mapOutcome g (x y).1 := by
  show (Run.bind x (fun a => Run.pure (g a)) y).1 = _
  unfold Run.bind
  rcases x y with ⟨outcome, z⟩
  cases outcome <;> rfl

/-- A handler that decides from the request whether it reads the body, and answers from the
    request and from the text that it has read. -/
def reader (plan : Request → Response ⊕ (String → Response)) : Handler := fun request =>
  match plan request with
  | .inl response => pure response
  | .inr answer => answer <$> Effect.readBody

/-- The answer of such a handler depends on the end of the body and, if it is complete, on the
    text that is left of it, and on nothing else of the exchange. -/
theorem reader_outcome (plan : Request → Response ⊕ (String → Response)) (request : Request)
    {x y : Exchange} (hending : x.inbound.ending = y.inbound.ending)
    (htext : y.inbound.ending = .complete → x.inbound.text = y.inbound.text) :
    (reader plan request x).1 = (reader plan request y).1 := by
  have hread : (Effect.readBody x).1 = (Effect.readBody y).1 := by
    unfold Effect.readBody
    rw [hending]
    cases hy : y.inbound.ending with
    | complete => exact congrArg Outcome.done (htext hy)
    | failed reason => rfl
    | silent => rfl
  unfold reader
  cases plan request with
  | inl response => rfl
  | inr answer =>
    rw [map_outcome, map_outcome, hread]

section
variable {rules : RuleSet} {request : Request} {rule : Rule} {base url : Url} {network : Network}
  {message : String} {code : Option Json} {inbound : Stream}

/-- After a failure of the backend the next handler starts on what was not passed on. -/
theorem proxy_run_of_backend_failure (next : Handler)
    (h : PassesOn rules request rule base url) (hbase : base.IsWeb)
    (hfails : (Forwarder.backendOf network base (request.withUrl url)).FailsWith inbound
      (.failure message code)) :
    ∃ journal, proxy rules (Forwarder.overNetwork network) next request (.begin inbound) =
      next request ⟨journal, { inbound with
        chunks := (Forwarder.backendOf network base (request.withUrl url)).moment.spared
          inbound.chunks }⟩ := by
  obtain ⟨journal, hsend⟩ := Forwarder.send_of_failure (x := .begin inbound) hbase hfails
  have hforward : (do (← Forwarder.overNetwork network base) (request.withUrl url) : Effect Response)
      = Forwarder.send network base (request.withUrl url) := rfl
  -- what the transport reports always has a text, so the report does not fail
  obtain ⟨reason, hreason⟩ :
      ∃ reason, (Thrown.backendFailed base.authority (.failure message code)).message? = some reason := by
    simp only [Thrown.message?]
    split <;> exact ⟨_, rfl⟩
  rw [proxy_passesOn _ _ h, Run.rescue, hforward, hsend]
  exact ⟨_, fallThrough_shown url.href next _ hreason⟩

/-- Whatever answers from the request and its body gives the same answer behind these two
    rule sets. -/
def AnswersAlike (rules others : RuleSet) (network : Network) (request : Request)
    (inbound : Stream) : Prop :=
  ∀ plan, (proxy rules (Forwarder.overNetwork network) (reader plan) request (.begin inbound)).1 =
    (proxy others (Forwarder.overNetwork network) (reader plan) request (.begin inbound)).1

/-- A request whose forwarding has failed is answered as if no rule were for it exactly if the
    backend had been passed no text of its body. -/
theorem answersAlike_iff {others : RuleSet} (h : PassesOn rules request rule base url)
    (hbase : base.IsWeb)
    (hfails : (Forwarder.backendOf network base (request.withUrl url)).FailsWith inbound
      (.failure message code))
    (hothers : others.resolve request.canonicalPath = none) :
    AnswersAlike rules others network request inbound ↔
      (inbound.ending = .complete → String.join ((Forwarder.backendOf network base
        (request.withUrl url)).moment.taken inbound.chunks) = "") := by
  have hsplit := (Forwarder.backendOf network base
    (request.withUrl url)).moment.taken_append_spared inbound.chunks
  constructor
  · intro hall hbody
    -- a handler that gives the text back tells the two bodies apart
    have hecho := hall fun _ => .inr fun text => ⟨200, [], .text text⟩
    obtain ⟨journal, hrun⟩ := proxy_run_of_backend_failure _ h hbase hfails
    rw [hrun, proxy_unmatched _ _ hothers] at hecho
    have htext : String.join ((Forwarder.backendOf network base
        (request.withUrl url)).moment.spared inbound.chunks) = String.join inbound.chunks := by
      simpa [reader, map_outcome, mapOutcome, Effect.readBody, Exchange.begin, hbody,
        Stream.text] using hecho
    have hlists := congrArg String.toList htext
    rw [← hsplit, String.join_append, hsplit, String.toList_append] at hlists
    exact String.toList_inj.mp (List.append_left_eq_self.mp hlists.symm)
  · intro htaken plan
    obtain ⟨journal, hrun⟩ := proxy_run_of_backend_failure (reader plan) h hbase hfails
    rw [hrun, proxy_unmatched _ _ hothers]
    refine reader_outcome plan request rfl ?_
    intro hbody
    show String.join _ = String.join inbound.chunks
    rw [← hsplit, String.join_append, htaken hbody, hsplit]
    simp

end

/-- A connection that is refused before anything is passed on leaves the body. -/
theorem refused_connection_answersAlike :
    PassesOn [apiRule] apiRequest apiRule apiBase
      { apiBase with path := .segments ["api", "items"] } ∧
    AnswersAlike [apiRule] [] (fun _ => ⟨.failure (.failure "refused" none), .after 0⟩) apiRequest
      ⟨["ab", "c"], .complete⟩ := by
  refine ⟨apiRequest_passesOn, (answersAlike_iff apiRequest_passesOn (.inl rfl) ⟨rfl, ?_⟩ rfl).mpr ?_⟩
  · intro hend
    exact absurd hend (by decide)
  · intro _
    rfl

/-- A connection that is reset after the body takes the body away. -/
theorem reset_connection_not_answersAlike :
    ¬ AnswersAlike [apiRule] [] (fun _ => ⟨.failure (.failure "reset" none), .atEnd⟩) apiRequest
      ⟨["ab", "c"], .complete⟩ := by
  intro h
  have hecho := h fun _ => .inr fun text => ⟨200, [], .text text⟩
  have hempty : (proxy [apiRule] (Forwarder.overNetwork fun _ =>
      ⟨.failure (.failure "reset" none), .atEnd⟩)
      (reader fun _ => .inr fun text => ⟨200, [], .text text⟩) apiRequest
      (.begin ⟨["ab", "c"], .complete⟩)).1 = .done ⟨200, [], .text ""⟩ := rfl
  rw [hempty] at hecho
  have hwhole : (proxy [] (Forwarder.overNetwork fun _ =>
      ⟨.failure (.failure "reset" none), .atEnd⟩)
      (reader fun _ => .inr fun text => ⟨200, [], .text text⟩) apiRequest
      (.begin ⟨["ab", "c"], .complete⟩)).1 = .done ⟨200, [], .text "abc"⟩ := rfl
  rw [hwhole] at hecho
  simp at hecho

end Middleware

end Gateway
