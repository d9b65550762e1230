import Gateway.Delivery
import Gateway.Proofs.Dispatch

/- What a client gets for its request. Each step of a delivery does one thing to the client, and
   a stream reaches it chunk by chunk (`pipe_delivers`). So whatever the handler does, the client is
   sent one whole answer (`SentTo`): the refusal, the notice of a failure or the handler's own
   response, which is ended in good order exactly if its body is complete (`answersOnce_iff`).
   Only a failure that has no text to report keeps the client waiting. -/
namespace Gateway

/-! ## Answers -/

/-- An answer as it goes to a client. -/
structure Answer where
  status : Number
  headers : Headers
  chunks : List String
  ending : Ending
deriving Repr, DecidableEq

/-- The parts in which a body is written. -/
def Body.chunks : Body → List String
  | .none => []
  | .text whole => [whole]
  | .bytes whole => [whole]
  | .stream s => s.chunks

/-- How a body ends. Only a stream can fail to be complete. -/
def Body.ending : Body → Ending
  | .stream s => s.ending
  | _ => .complete

theorem Body.stream?_eq_some_iff {body : Body} {s : Stream} :
    body.stream? = some s ↔ body = .stream s := by
  cases body <;> simp [stream?]

theorem Body.ending_of_stream?_eq_none {body : Body} (h : body.stream? = Option.none) :
    body.ending = .complete := by
  cases body with
  | stream s => cases h
  | _ => rfl

/-- The failure at the end of a stream. -/
def Ending.reason? : Ending → Option String
  | .failed reason => some reason
  | _ => none

/-- What the end of a stream adds to the log: its failure, if there is one. -/
def Ending.log (e : Ending) : Log := e.reason?.toList.map Deliver.streamFailed

@[simp] theorem Ending.log_complete : Ending.log .complete = [] := rfl

@[simp] theorem Ending.log_silent : Ending.log .silent = [] := rfl

/-- A client that has been sent a head and nothing else. -/
def Client.opened (status : Number) (headers : Headers) : Client :=
  { Client.fresh none none with heads := [(status, headers)], headSent := true }

namespace Answer

/-- What a client is told whose target and host make no URL. -/
def refusal : Answer :=
  ⟨400, Deliver.plainText, ["Bad Request: invalid Host header"], .complete⟩

/-- What a client is told when the handler fails. -/
def failure : Answer := ⟨500, Deliver.plainText, ["Internal Server Error"], .complete⟩

def ofResponse (r : Response) : Answer := ⟨r.status, r.headers, r.body.chunks, r.body.ending⟩

/-- The client has been sent this answer and nothing else: one head, the parts of the body in
    order, and one end in good order if the body is complete. If the body fails the connection
    is torn down with the failure. -/
structure SentTo (a : Answer) (c : Client) : Prop where
  heads : c.heads = [(a.status, a.headers)]
  chunks : c.chunks = a.chunks
  ends : c.ends = if a.ending = .complete then 1 else 0
  destroyed : c.destroyed = a.ending.reason?.isSome
  failure : c.failure = a.ending.reason?

end Answer

namespace Deliver
open Answer

/-- The delivery has come to its end with this exchange, and with this answer at the client. -/
structure Delivers (y : Exchange) (a : Answer) (result : Outcome Thrown Unit × Delivery) :
    Prop where
  outcome : result.1 = .done ()
  exchange : result.2.exchange = y
  sent : a.SentTo result.2.client

/-! ## The steps of a delivery -/

section
variable (y : Exchange) (status : Number) (headers : Headers) (stream : Option Stream.Fate)
  (tied : Bool)

theorem report_bind {α : Type} (entry : LogEntry) (f : Unit → Deliver α) (d : Delivery) :
    (report entry >>= f) d = f () { d with exchange := d.exchange.append [.logged entry] } := rfl

theorem writeHead_bind {α : Type} (f : Unit → Deliver α) :
    (writeHead status headers >>= f) ⟨y, .fresh none none, stream, tied⟩ =
      f () ⟨y, .opened status headers, stream, tied⟩ := rfl

/-- A body that is written at once makes a whole answer. -/
theorem whole_sentTo (chunks : List String) :
    SentTo ⟨status, headers, chunks, .complete⟩
      { Client.opened status headers with chunks, ends := 1 } :=
  ⟨rfl, rfl, rfl, rfl, rfl⟩

theorem finish_delivers (last : Option String) :
    Delivers y ⟨status, headers, last.toList, .complete⟩
      (finish last ⟨y, .opened status headers, stream, tied⟩) :=
  ⟨rfl, rfl, whole_sentTo status headers last.toList⟩

/-- The chunks of a stream are written in order. -/
theorem writeAll_run (chunks : List String) (d : Delivery) :
    writeAll chunks d = (.done (), { d with client := { d.client with
      chunks := d.client.chunks ++ chunks } }) := by
  induction chunks generalizing d with
  | nil =>
    rw [List.append_nil]
    rfl
  | cons chunk rest ih =>
    rw [writeAll, write, onClient, Run.modify_bind, ih]
    simp only [List.append_assoc, List.singleton_append]

/-- A stream brings its chunks, and then the answer ends with it or is given up. -/
theorem pipe_delivers (s : Stream) :
    Delivers (y.append (s.ending.log.map .logged)) ⟨status, headers, s.chunks, s.ending⟩
      (pipe s ⟨y, .opened status headers, stream, tied⟩) := by
  obtain ⟨chunks, ending⟩ := s
  rw [pipe, Run.bind_of_done _ (writeAll_run chunks _), Run.modify_bind]
  cases ending with
  | complete =>
    rw [Ending.log_complete, List.map_nil, Exchange.append_nil]
    exact ⟨rfl, rfl, rfl, rfl, rfl, rfl, rfl⟩
  | failed reason => exact ⟨rfl, rfl, rfl, rfl, rfl, rfl, rfl⟩
  | silent =>
    rw [Ending.log_silent, List.map_nil, Exchange.append_nil]
    exact ⟨rfl, rfl, rfl, rfl, rfl, rfl, rfl⟩

/-- A response without a stream is sent at once. -/
theorem send_run_whole {body : Body} (h : body.stream? = none) :
    send ⟨status, headers, body⟩ (.begin y (.fresh none none)) =
      (.done none, .begin y { Client.opened status headers with chunks := body.chunks, ends := 1 }) := by
  cases body with
  | none => rfl
  | text whole => rfl
  | bytes whole => rfl
  | stream s => cases h

/-- Of a response with a stream the head is sent. -/
theorem send_run_stream (s : Stream) :
    send ⟨status, headers, .stream s⟩ (.begin y (.fresh none none)) =
      (.done (some s), ⟨y, .opened status headers, some ⟨false, false⟩, true⟩) := rfl

end

/-! ## Answers by a handler -/

section
variable {handler : Handler} {i : Incoming} {request : Request} {x y : Exchange}

theorem answer_refused (handler : Handler) (x : Exchange) (h : i.request? = none) :
    answer handler i (.begin x (.fresh none none)) =
      sendRefusal (.begin x (.fresh none none)) := by
  rw [answer, h]

theorem sendRefusal_delivers (x : Exchange) :
    Delivers x refusal (sendRefusal (.begin x (.fresh none none))) := by
  rw [sendRefusal, Delivery.begin, writeHead_bind]
  exact finish_delivers x 400 plainText none false (some "Bad Request: invalid Host header")

theorem sendFailure_delivers {e : Thrown} {reason : String} (h : e.message? = some reason) :
    Delivers (y.append [.logged (handlerFailed i reason)]) failure
      (sendFailure i e (.begin y (.fresh none none))) := by
  have hunsent : (Client.fresh none none).headSent = false := rfl
  rw [sendFailure, Run.bind_of_done _ (Thrown.shown_of_some h _), report_bind, Run.get_bind, Delivery.begin,
    hunsent, if_neg Bool.false_ne_true, writeHead_bind]
  exact finish_delivers _ 500 plainText none false (some "Internal Server Error")

/-- A failure without a text fails again when it is to be reported. -/
theorem sendFailure_unshown {e : Thrown} (h : e.message? = none) (d : Delivery) :
    sendFailure i e d = (.failed .noText, d) := by
  rw [sendFailure, Run.bind_of_failed _ (Thrown.shown_of_none h d)]

theorem ofEffect_begin {α : Type} {effect : Effect α} {outcome : Outcome Thrown α}
    (h : effect x = (outcome, y)) (c : Client) :
    ofEffect effect (.begin x c) = (outcome, .begin y c) := by
  rw [ofEffect, Run.onPart, Delivery.begin, h]
  rfl

theorem settle_failed {e : Thrown} (hrun : handler request x = (.failed e, y)) (c : Client) :
    settle handler i request (.begin x c) =
      (sendFailure i e >>= fun _ => pure none) (.begin y c) := by
  rw [settle, Run.rescue_of_failed _ (Run.bind_of_failed _ (ofEffect_begin hrun c))]

theorem settle_responded {r : Response} (hrun : handler request x = (.done r, y)) (c : Client)
    {rest : Option Stream} {d : Delivery} (hsend : send r (.begin y c) = (.done rest, d)) :
    settle handler i request (.begin x c) = (.done rest, d) := by
  rw [settle]
  apply Run.rescue_of_done
  rw [Run.bind_of_done _ (ofEffect_begin hrun c), hsend]

theorem answer_whole (hrequest : i.request? = some request) {d d' : Delivery}
    (h : settle handler i request d = (.done none, d')) :
    answer handler i d = (.done (), d') := by
  rw [answer, hrequest]
  exact Run.bind_of_done _ h

theorem answer_stream (hrequest : i.request? = some request) {d d' : Delivery} {s : Stream}
    (h : settle handler i request d = (.done (some s), d')) :
    answer handler i d = pipe s d' := by
  rw [answer, hrequest]
  exact Run.bind_of_done _ h

theorem answer_failed {e : Thrown} {reason : String} (hrequest : i.request? = some request)
    (hrun : handler request x = (.failed e, y)) (h : e.message? = some reason) :
    Delivers (y.append [.logged (handlerFailed i reason)]) failure
      (answer handler i (.begin x (.fresh none none))) := by
  have hsent := sendFailure_delivers (i := i) (y := y) h
  rcases hsend : sendFailure i e (.begin y (.fresh none none)) with ⟨outcome, d⟩
  rw [hsend] at hsent
  obtain rfl := hsent.outcome
  rw [answer_whole hrequest ((settle_failed hrun _).trans (Run.bind_of_done _ hsend))]
  exact hsent

theorem answer_unshown {e : Thrown} (hrequest : i.request? = some request)
    (hrun : handler request x = (.failed e, y)) (h : e.message? = none) :
    answer handler i (.begin x (.fresh none none)) =
      (.failed .noText, .begin y (.fresh none none)) := by
  rw [answer, hrequest]
  apply Run.bind_of_failed
  rw [settle_failed hrun, Run.bind_of_failed _ (sendFailure_unshown h _)]

/-- The response of a handler is sent as it is, and ended when its body is complete. -/
theorem answer_responded {r : Response} (hrequest : i.request? = some request)
    (hrun : handler request x = (.done r, y)) :
    Delivers (y.append (r.body.ending.log.map .logged)) (.ofResponse r)
      (answer handler i (.begin x (.fresh none none))) := by
  obtain ⟨status, headers, body⟩ := r
  cases hstream : body.stream? with
  | none =>
    have hending : body.ending = .complete := Body.ending_of_stream?_eq_none hstream
    rw [answer_whole hrequest (settle_responded hrun _ (send_run_whole y status headers hstream)),
      ofResponse, hending, Ending.log_complete, List.map_nil, Exchange.append_nil]
    exact ⟨rfl, rfl, whole_sentTo status headers body.chunks⟩
  | some s =>
    obtain rfl : body = .stream s := Body.stream?_eq_some_iff.mp hstream
    rw [answer_stream hrequest (settle_responded hrun _ (send_run_stream y status headers s))]
    exact pipe_delivers y status headers (some ⟨false, false⟩) true s

end

/-- How a request is answered once. -/
inductive AnswersOnce (handler : Handler) (i : Incoming) (x : Exchange)
    (result : Outcome Thrown Unit × Delivery) : Prop
  /-- The target and the host make no URL: the client is told so. Nothing happens in the
      exchange, and every other handler would have led to the same. -/
  | refused (hrequest : i.request? = none)
    (hunasked : ∀ other, answer other i (.begin x (.fresh none none)) = result)
    (hsent : Delivers x .refusal result)
  /-- The handler fails: one error line, with the text of the failure if it has one, and the
      client is told of a failure. -/
  | failed (request : Request) (e : Thrown) (y : Exchange) (reason : String)
    (hrequest : i.request? = some request) (hrun : handler request x = (.failed e, y))
    (hreason : ∀ text, e.message? = some text → reason = text)
    (hsent : Delivers (y.append [.logged (handlerFailed i reason)]) .failure result)
  /-- The handler responds, and the client gets the response. If its stream fails there is one
      error line. -/
  | responded (request : Request) (r : Response) (y : Exchange)
    (hrequest : i.request? = some request) (hrun : handler request x = (.done r, y))
    (hsent : Delivers (y.append (r.body.ending.log.map .logged)) (.ofResponse r) result)

theorem AnswersOnce.outcome {handler : Handler} {i : Incoming} {x : Exchange}
    {result : Outcome Thrown Unit × Delivery} (h : AnswersOnce handler i x result) :
    result.1 = .done () := by
  cases h with
  | refused _ _ hsent => exact hsent.outcome
  | failed _ _ _ _ _ _ _ hsent => exact hsent.outcome
  | responded _ _ _ _ _ hsent => exact hsent.outcome

/-- A handler that comes to an end answers every request once, exactly if it does not fail with
    a value that has no text. -/
theorem answersOnce_iff (handler : Handler) (i : Incoming) (x : Exchange)
    (hends : ∀ request, i.request? = some request → (handler request x).1 ≠ .pending) :
    AnswersOnce handler i x (answer handler i (.begin x (.fresh none none))) ↔
      ∀ request e y, i.request? = some request → handler request x = (.failed e, y) →
        e.message? ≠ none := by
  constructor
  · intro h request e y hrequest hrun hnone
    have hdone := h.outcome
    rw [answer_unshown hrequest hrun hnone] at hdone
    cases hdone
  · intro hshown
    cases hrequest : i.request? with
    | none =>
      refine .refused hrequest (fun other => ?_) ?_
      · rw [answer_refused other x hrequest, answer_refused handler x hrequest]
      · rw [answer_refused handler x hrequest]
        exact sendRefusal_delivers x
    | some request =>
      rcases hrun : handler request x with ⟨outcome, y⟩
      cases outcome with
      | done r => exact .responded request r y hrequest hrun (answer_responded hrequest hrun)
      | failed e =>
        obtain ⟨reason, hreason⟩ := Option.ne_none_iff_exists'.mp (hshown request e y hrequest hrun)
        refine .failed request e y reason hrequest hrun (fun text htext => ?_)
          (answer_failed hrequest hrun hreason)
        exact Option.some.inj (hreason.symm.trans htext)
      | pending =>
        have hpending := hends request hrequest
        rw [hrun] at hpending
        exact absurd rfl hpending

/-- A request whose target and host make a URL. -/
def usualIncoming : Incoming := ⟨some "/x", some "GET", [("host", .text "l")]⟩

def usualRequest : Request :=
  ⟨"GET", ⟨"http", "", "", some (.name "l"), none, .segments ["x"], none, none⟩,
    [("host", .text "l")], .object []⟩

theorem usualIncoming_request : usualIncoming.request? = some usualRequest := rfl

/-- A stream that breaks off behind two chunks is not taken for a whole answer. -/
theorem broken_stream_answersOnce :
    let handler := Scripted.handler (.respond ⟨200, [], .stream ⟨["a", "b"], .failed "reset"⟩⟩)
    (∀ request, usualIncoming.request? = some request →
      (handler request (.begin .empty)).1 ≠ .pending) ∧
    AnswersOnce handler usualIncoming (.begin .empty)
      (answer handler usualIncoming (.begin (.begin .empty) (.fresh none none))) := by
  intro handler
  have hends : ∀ request, usualIncoming.request? = some request →
      (handler request (.begin .empty)).1 ≠ .pending := by
    intro request _ hpending
    cases hpending
  refine ⟨hends, (answersOnce_iff handler usualIncoming (.begin .empty) hends).mpr ?_⟩
  intro request e y _ hrun
  cases hrun

/-- A handler that fails with an object whose member `toString` is a number leaves the client
    without an answer. -/
theorem unshown_failure_not_answered :
    ¬ ∀ (handler : Handler) (i : Incoming) (x : Exchange),
      (∀ request, i.request? = some request → (handler request x).1 ≠ .pending) →
        AnswersOnce handler i x (answer handler i (.begin x (.fresh none none))) := by
  intro h
  have hdone := (h (Scripted.handler (.fail (.value (.object [("toString", .number 1)]))))
    usualIncoming (.begin .empty) fun request _ hpending => by cases hpending).outcome
  rw [answer_unshown usualIncoming_request rfl rfl] at hdone
  cases hdone

end Deliver

end Gateway
