import Gateway.Proofs.FallThrough
import Gateway.Proofs.Fields

/- How a forwarding ends. The body of the client, the outgoing request and the backend each
   bring events, in any order. The first of them that settles the matter decides
   (`after_outcome`), and nothing that comes later changes it (`after_settled`), so a forwarding
   settles once (`settlesOnce`). The events that a backend's behaviour gives are such an order
   (`interleaves_events`). -/
namespace Gateway

/-! ## Headers that are passed on -/

namespace Headers

/-- The headers of a message as they are handed over: an object without the reserved name. -/
structure Delivered (headers : Headers) : Prop where
  listed : Fields.IsListed headers
  assignable : ∀ field ∈ headers, field.1 ≠ Fields.reserved

/-- Whether a header is passed on. -/
def isPassedOn (field : String × HeaderValue) : Bool :=
  !(field.2 = .absent || hopByHop.contains field.1)

theorem endToEnd_eq_foldl (headers : Headers) :
    headers.endToEnd = (headers.filter isPassedOn).foldl
      (fun kept field => Fields.assign field.1 field.2 kept) [] := by
  rw [List.foldl_filter]
  unfold endToEnd
  congr 1
  funext kept field
  cases h : isPassedOn field with
  | true =>
    rw [isPassedOn, Bool.not_eq_true'] at h
    exact if_neg (by rw [h]; decide)
  | false =>
    rw [isPassedOn, Bool.not_eq_false'] at h
    exact if_pos h

/-- The headers that are passed on keep their order. -/
theorem endToEnd_eq_filter {headers : Headers} (h : Fields.IsListed headers) :
    headers.endToEnd =
      headers.filter fun field => field.1 ≠ Fields.reserved && isPassedOn field := by
  rw [endToEnd_eq_foldl, Fields.IsListed.foldl_assign_nil (h.filter isPassedOn), List.filter_filter]

/-- Headers as they are handed over are passed on in their order, without those about the
    connection. -/
theorem Delivered.endToEnd_eq {headers : Headers} (h : headers.Delivered) :
    headers.endToEnd = headers.filter isPassedOn := by
  rw [endToEnd_eq_filter h.listed]
  exact List.filter_congr fun field hm => by simp [h.assignable field hm]

end Headers

/-! ## Events -/

namespace TransferEvent

/-- Whether the event is about the body of the client. -/
def isInbound : TransferEvent → Bool
  | .chunk _ | .bodyEnded | .bodyFailed _ => true
  | .answered .. | .requestFailed _ => false

/-- How an event settles a forwarding to a host that is not settled yet. -/
def settlement (host : String) : TransferEvent → Option (Except Thrown Response)
  | .answered status headers body =>
    some (.ok ⟨status.getD 502, headers.filter Headers.isPassedOn, .stream body⟩)
  | .requestFailed error => some (.error (.backendFailed host error))
  | .bodyFailed reason => some (.error (.backendFailed host (.failure reason none)))
  | .chunk _ | .bodyEnded => none

end TransferEvent

namespace Transfer
open Backend (chunkEvents endEvents)
open TransferEvent (isInbound settlement)

/-- The events are those of a client that sends this body, with any events of the backend
    and of the outgoing request before, between and behind them. -/
def Interleaves (body : Stream) (events : List TransferEvent) : Prop :=
  events.filter isInbound = chunkEvents body.chunks ++ endEvents body.ending

/-- The answers come with headers as they are handed over. -/
def AreDelivered (events : List TransferEvent) : Prop :=
  ∀ status headers body, .answered status headers body ∈ events → Headers.Delivered headers

variable (host : String)

/-! ## Events that come too late -/

theorem step_of_broken {t : Transfer} (h : t.broken = true) (event : TransferEvent) :
    step host t event = t.stepBroken event := by simp [step, h]

/-- An event after the outgoing request was given up does not reach the backend. -/
theorem stepBroken_kept (t : Transfer) (event : TransferEvent) :
    (t.stepBroken event).broken = t.broken ∧ (t.stepBroken event).complete = t.complete ∧
      (t.stepBroken event).sent = t.sent ∧ (t.stepBroken event).outcome = t.outcome := by
  cases event <;> exact ⟨rfl, rfl, rfl, rfl⟩

/-! ## What settles -/

/-- A settled forwarding stays as it is settled. -/
theorem step_settled {t : Transfer} {o : Except Thrown Response} (h : t.outcome = some o)
    (event : TransferEvent) : (step host t event).outcome = some o := by
  cases hbroken : t.broken with
  | true => rw [step_of_broken host hbroken, (stepBroken_kept t event).2.2.2, h]
  | false => cases event <;> simp [step, hbroken, settle, h]

theorem after_settled {t : Transfer} {o : Except Thrown Response} (h : t.outcome = some o)
    (events : List TransferEvent) : (after host t events).outcome = some o := by
  induction events generalizing t with
  | nil => exact h
  | cons event rest ih => exact ih (step_settled host h event)

/-- An event that settles nothing leaves the outgoing request open. -/
theorem step_open {t : Transfer} (hbroken : t.broken = false) (hopen : t.outcome = none)
    {event : TransferEvent} (h : settlement host event = none) :
    (step host t event).broken = false ∧ (step host t event).outcome = none := by
  cases event <;> simp_all [step, settlement]

theorem step_settles {t : Transfer} (hbroken : t.broken = false) (hopen : t.outcome = none)
    {event : TransferEvent} {o : Except Thrown Response} (h : settlement host event = some o)
    (hdelivered : AreDelivered [event]) : (step host t event).outcome = some o := by
  cases event with
  | chunk text => cases h
  | bodyEnded => cases h
  | bodyFailed reason =>
    obtain rfl := Option.some.inj h
    rw [step_bodyFailed host hbroken]
    simp [settle, hopen]
  | answered status headers body =>
    obtain rfl := Option.some.inj h
    have hheaders := (hdelivered status headers body List.mem_cons_self).endToEnd_eq
    rw [step_answered host hbroken]
    simp [settle, hopen, response, hheaders, badGateway]
  | requestFailed error =>
    obtain rfl := Option.some.inj h
    rw [step_requestFailed host hbroken]
    simp [settle, hopen]

/-- The first event that settles a forwarding decides. -/
theorem after_outcome {t : Transfer} (hbroken : t.broken = false) (hopen : t.outcome = none)
    {events : List TransferEvent} (h : AreDelivered events) :
    (after host t events).outcome = events.findSome? (settlement host) := by
  induction events generalizing t with
  | nil => exact hopen
  | cons event rest ih =>
    have hrest : AreDelivered rest := fun status headers body hm =>
      h status headers body (List.mem_cons_of_mem event hm)
    rw [List.findSome?_cons]
    show (after host (step host t event) rest).outcome = _
    cases hevent : settlement host event with
    | some o =>
      have hfirst : AreDelivered [event] := fun status headers body hm =>
        h status headers body (List.mem_singleton.mp hm ▸ List.mem_cons_self)
      exact after_settled host (step_settles host hbroken hopen hevent hfirst) rest
    | none =>
      obtain ⟨hbroken', hopen'⟩ := step_open host hbroken hopen hevent
      exact ih hbroken' hopen' hrest

/-! ## Whole runs -/

theorem run_append (d : Dispatch) (front back : List TransferEvent) :
    run host d (front ++ back) = after host (run host d front) back := List.foldl_append

/-- How the forwarding of a request to a host ends, for these events. -/
structure SettlesOnce (d : Dispatch) (events : List TransferEvent) : Prop where
  /-- The first event that settles it decides, and without such an event it is pending. -/
  first : (run host d events).outcome = events.findSome? (settlement host)
  /-- Once it is settled, later events change nothing. -/
  final : ∀ front back, events = front ++ back → ∀ o, (run host d front).outcome = some o →
    (run host d events).outcome = some o
  /-- A failure is about the host and has the error behind it as its cause. -/
  failure : ∀ e, (run host d events).outcome = some (.error e) → ∃ cause, e.cause? = some cause ∧
    (.requestFailed cause ∈ events ∨
      ∃ reason, .bodyFailed reason ∈ events ∧ cause = .failure reason none) ∧
    ∀ reason, cause.message? = some reason → ∃ before behind,
      e.message? = some (before ++ host ++ behind)

theorem settlement_error {event : TransferEvent} {e : Thrown}
    (h : settlement host event = some (.error e)) :
    ∃ cause, e = .backendFailed host cause ∧ (event = .requestFailed cause ∨
      ∃ reason, event = .bodyFailed reason ∧ cause = .failure reason none) := by
  cases event with
  | chunk text => cases h
  | bodyEnded => cases h
  | bodyFailed reason =>
    obtain rfl := Except.error.inj (Option.some.inj h)
    exact ⟨_, rfl, .inr ⟨reason, rfl, rfl⟩⟩
  | answered status headers body => cases h
  | requestFailed error =>
    obtain rfl := Except.error.inj (Option.some.inj h)
    exact ⟨_, rfl, .inl rfl⟩

/-- A failed request says which host it was for. -/
theorem message?_backendFailed {cause : Thrown} {reason : String}
    (h : cause.message? = some reason) :
    ∃ before behind, (Thrown.backendFailed host cause).message? =
      some (before ++ host ++ behind) := by
  unfold Thrown.message?
  split
  · exact ⟨"", " refused the connection; is the backend running?", by rw [String.empty_append]⟩
  · refine ⟨"request to ", " failed: " ++ reason, ?_⟩
    rw [h]
    simp [String.append_assoc]

theorem settlesOnce (d : Dispatch) {events : List TransferEvent}
    (hdelivered : AreDelivered events) : SettlesOnce host d events := by
  have hfirst : (run host d events).outcome = events.findSome? (settlement host) :=
    after_outcome host rfl rfl hdelivered
  constructor
  case first => exact hfirst
  case final =>
    rintro front back rfl o ho
    rw [run_append]
    exact after_settled host ho back
  case failure =>
    intro e he
    rw [hfirst] at he
    obtain ⟨front, event, back, rfl, hevent, -⟩ := List.findSome?_eq_some_iff.mp he
    obtain ⟨cause, rfl, hcause⟩ := settlement_error host hevent
    refine ⟨cause, rfl, ?_, fun reason hreason => message?_backendFailed host hreason⟩
    rcases hcause with rfl | ⟨reason, rfl, hreason⟩
    · exact .inl (by simp)
    · exact .inr ⟨reason, by simp, hreason⟩

/-! ## Over a network -/

theorem isInbound_of_mem_chunkEvents {chunks : List String} {event : TransferEvent}
    (h : event ∈ chunkEvents chunks) : isInbound event = true := by
  obtain ⟨text, _, rfl⟩ := List.mem_map.mp h
  rfl

theorem isInbound_of_mem_endEvents {ending : Ending} {event : TransferEvent}
    (h : event ∈ endEvents ending) : isInbound event = true := by
  cases ending with
  | complete => obtain rfl := List.mem_singleton.mp h; rfl
  | failed reason => obtain rfl := List.mem_singleton.mp h; rfl
  | silent => cases h

theorem isInbound_replyEvent (reply : Reply) : isInbound (Backend.replyEvent reply) = false := by
  cases reply <;> rfl

theorem filter_chunkEvents (chunks : List String) :
    (chunkEvents chunks).filter isInbound = chunkEvents chunks :=
  List.filter_eq_self.mpr fun _ => isInbound_of_mem_chunkEvents

theorem filter_endEvents (ending : Ending) :
    (endEvents ending).filter isInbound = endEvents ending :=
  List.filter_eq_self.mpr fun _ => isInbound_of_mem_endEvents

/-- The client may send its body before anything else happens. -/
theorem interleaves_client (body : Stream) :
    Interleaves body (chunkEvents body.chunks ++ endEvents body.ending) := by
  rw [Interleaves, List.filter_append, filter_chunkEvents, filter_endEvents]

/-- Whenever a backend replies, the client's body comes as it is. -/
theorem interleaves_events (b : Backend) (body : Stream) : Interleaves body (b.events body) := by
  unfold Interleaves Backend.events
  split
  · next n =>
    rw [List.filter_append, List.filter_cons, isInbound_replyEvent, List.filter_append,
      filter_chunkEvents, filter_chunkEvents, filter_endEvents, if_neg (by decide),
      ← List.append_assoc]
    unfold chunkEvents
    rw [← List.map_append, List.take_append_drop]
  · rw [List.filter_append, List.filter_append, filter_chunkEvents, filter_endEvents]
    split
    · rw [List.filter_cons, isInbound_replyEvent]
      simp
    · simp

/-- The only other event is the reply. -/
theorem eq_replyEvent_of_mem {b : Backend} {body : Stream} {event : TransferEvent}
    (h : event ∈ b.events body) (hout : isInbound event = false) :
    event = Backend.replyEvent b.reply := by
  have hinbound (hin : isInbound event = true) : event = Backend.replyEvent b.reply := by
    rw [hin] at hout
    cases hout
  unfold Backend.events at h
  split at h
  · rcases List.mem_append.mp h with h | h
    · exact hinbound (isInbound_of_mem_chunkEvents h)
    · rcases List.mem_cons.mp h with h | h
      · exact h
      · rcases List.mem_append.mp h with h | h
        · exact hinbound (isInbound_of_mem_chunkEvents h)
        · exact hinbound (isInbound_of_mem_endEvents h)
  · rcases List.mem_append.mp h with h | h
    · rcases List.mem_append.mp h with h | h
      · exact hinbound (isInbound_of_mem_chunkEvents h)
      · exact hinbound (isInbound_of_mem_endEvents h)
    · split at h
      · exact List.mem_singleton.mp h
      · cases h

theorem areDelivered_events {b : Backend} (body : Stream)
    (h : ∀ status headers answer, b.reply = .answer status headers answer → headers.Delivered) :
    AreDelivered (b.events body) := by
  intro status headers answer hm
  have hreply := eq_replyEvent_of_mem hm rfl
  cases hb : b.reply with
  | answer status' headers' answer' =>
    rw [hb] at hreply
    obtain ⟨rfl, rfl, rfl⟩ := TransferEvent.answered.inj hreply
    exact h _ _ _ hb
  | failure error =>
    rw [hb] at hreply
    cases hreply

end Transfer

end Gateway
