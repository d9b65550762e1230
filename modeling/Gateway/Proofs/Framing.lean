import Gateway.Proofs.BackendHeaders

/- What a backend takes for the body of a request. At any time a front part of the client's body
   has been passed on, and all of it once it is complete (`after_passes`). Whether a backend can
   take less than that for the whole body is decided by the framing of the request
   (`readsWhole_iff`). How the client's own body was coded is a header about its connection and is
   not passed on, so a request of a method without a body that gives no length is framed as one
   that has none (`framing_dispatch`), and then only the empty body fits it
   (`fits_iff_of_no_length`). `forwarding_settles_once` puts this beside how a forwarding is
   settled. -/
namespace Gateway

/-- The bytes of all chunks. -/
def Stream.bytes (s : Stream) : List UInt8 := s.chunks.flatMap Text.bytes

namespace Transfer
open Backend (chunkEvents endEvents)
open TransferEvent (isInbound)

variable (host : String)

/-! ## What is passed on -/

theorem step_request (t : Transfer) (event : TransferEvent) :
    (step host t event).request = t.request := by
  cases hbroken : t.broken with
  | true =>
    rw [step_of_broken host hbroken]
    cases event <;> rfl
  | false => cases event <;> simp [step, hbroken, settle]

theorem after_request (t : Transfer) (events : List TransferEvent) :
    (after host t events).request = t.request := by
  induction events generalizing t with
  | nil => rfl
  | cons event rest ih => exact (ih (step host t event)).trans (step_request host t event)

/-- A forwarding that is given up passes nothing on any more. -/
theorem after_broken_kept {t : Transfer} (h : t.broken = true) (events : List TransferEvent) :
    (after host t events).complete = t.complete ∧ (after host t events).sent = t.sent := by
  induction events generalizing t with
  | nil => exact ⟨rfl, rfl⟩
  | cons event rest ih =>
    obtain ⟨hbroken, hcomplete, hsent, -⟩ := stepBroken_kept t event
    show (after host (step host t event) rest).complete = _ ∧
      (after host (step host t event) rest).sent = _
    rw [step_of_broken host h, ← hcomplete, ← hsent]
    exact ih (hbroken.trans h)

/-- Without events of the client nothing is passed on. -/
theorem after_sent {t : Transfer} {events : List TransferEvent}
    (h : events.filter isInbound = []) : (after host t events).sent = t.sent := by
  induction events generalizing t with
  | nil => rfl
  | cons event rest ih =>
    have hout : isInbound event = false := by simpa using List.filter_eq_nil_iff.mp h event
    have hstep : (step host t event).sent = t.sent := by
      cases hbroken : t.broken with
      | true => rw [step_of_broken host hbroken, (stepBroken_kept t event).2.2.1]
      | false =>
        cases event with
        | chunk text => cases hout
        | bodyEnded => cases hout
        | bodyFailed reason => cases hout
        | answered status headers body => simp [step, hbroken, settle]
        | requestFailed error => simp [step, hbroken, settle]
    rw [List.filter_cons, hout] at h
    show (after host (step host t event) rest).sent = _
    rw [ih h, hstep]

/-- No more than these chunks has been passed on, and all of them if they are complete, which they
    are only at a clean end. -/
structure Passes (chunks : List String) (ending : Ending) (t : Transfer) : Prop where
  sent : t.sent <+: chunks
  whole : t.complete = true → ending = .complete ∧ t.sent = chunks

theorem Passes.of_incomplete {t : Transfer} {sent rest : List String} {ending : Ending}
    (hcomplete : t.complete = false) (hsent : t.sent = sent) : Passes (sent ++ rest) ending t where
  sent := hsent ▸ List.prefix_append sent rest
  whole h := absurd (h.symm.trans hcomplete) (by decide)

theorem after_passes {t : Transfer} {events more : List TransferEvent} {rest : List String}
    {ending : Ending} (h : events.filter isInbound ++ more = chunkEvents rest ++ endEvents ending)
    (ht : t.complete = false) : Passes (t.sent ++ rest) ending (after host t events) := by
  -- by induction on the events; a forwarding that is given up on the way stays as it is
  induction events generalizing t rest with
  | nil => exact .of_incomplete ht rfl
  | cons event others ih =>
    have hgivenUp {s : Transfer} (hbroken : s.broken = true) (hcomplete : s.complete = false)
        (hsent : s.sent = t.sent) : Passes (t.sent ++ rest) ending (after host s others) := by
      obtain ⟨hcomplete', hsent'⟩ := after_broken_kept host hbroken others
      exact .of_incomplete (hcomplete'.trans hcomplete) (hsent'.trans hsent)
    show Passes (t.sent ++ rest) ending (after host (step host t event) others)
    cases hbroken : t.broken with
    | true =>
      obtain ⟨hbroken', hcomplete, hsent, -⟩ := stepBroken_kept t event
      rw [step_of_broken host hbroken]
      exact hgivenUp (hbroken'.trans hbroken) (hcomplete.trans ht) hsent
    | false =>
      cases event with
      | chunk text =>
        rcases rest with _ | ⟨c, rest⟩
        · cases ending <;> cases h
        · obtain ⟨hfirst, hrest⟩ := List.cons.inj h
          obtain rfl : text = c := TransferEvent.chunk.inj hfirst
          rw [step_chunk host hbroken, List.append_cons]
          exact ih (t := { t with sent := t.sent ++ [text] }) hrest ht
      | bodyEnded =>
        rcases rest with _ | ⟨c, rest⟩
        · cases ending with
          | complete =>
            obtain ⟨-, hnone⟩ := List.cons.inj h
            have hsent := after_sent host (t := { t with complete := true })
              (List.append_eq_nil_iff.mp hnone).1
            rw [step_bodyEnded host hbroken, List.append_nil]
            exact ⟨⟨[], (List.append_nil _).trans hsent⟩, fun _ => ⟨rfl, hsent⟩⟩
          | failed reason => cases h
          | silent => cases h
        · cases h
      | bodyFailed reason =>
        rw [step_bodyFailed host hbroken]
        exact hgivenUp rfl ht rfl
      | answered status headers body =>
        rw [step_answered host hbroken]
        exact ih (t := t.settle _) h ht
      | requestFailed error =>
        rw [step_requestFailed host hbroken]
        exact hgivenUp rfl ht rfl

theorem run_passes {d : Dispatch} {body : Stream} {front back : List TransferEvent}
    (h : Interleaves body (front ++ back)) :
    Passes body.chunks body.ending (run host d front) := by
  unfold Interleaves at h
  rw [List.filter_append] at h
  exact after_passes host (t := start d) h rfl

theorem run_request (d : Dispatch) (events : List TransferEvent) :
    (run host d events).request = d := after_request host (start d) events

/-! ## What is read -/

/-- At no time has the backend read a body that is complete for it other than the whole one of a
    client that has sent all of it. -/
def ReadsWhole (d : Dispatch) (body : Stream) (events : List TransferEvent) : Prop :=
  ∀ front back, events = front ++ back → ∀ bytes, (run host d front).received = some bytes →
    body.ending = .complete ∧ bytes = body.bytes

theorem received_eq_some_iff {t : Transfer} {bytes : List UInt8} :
    t.received = some bytes ↔
      t.hasHead = true ∧ t.request.framing.read t.bytes t.complete = some bytes := by
  unfold received
  split
  · next h => simp [h]
  · next h => simp [h]

end Transfer

/-- The request is framed so that only the whole body, from a client that has sent all of it, can
    be taken for the body: its end is marked, or the size that announces it is never reached or is
    that of the whole body, or there is neither a body nor an end of it and nothing is sent. -/
def Dispatch.Fits (d : Dispatch) (body : Stream) : Prop :=
  ∀ n, d.framing = .sized n → body.bytes.length < n ∨
    (body.ending = .complete ∧ body.bytes.length = n) ∨ (body.chunks = [] ∧ d.isAnnounced = false)

namespace Transfer
open Backend (chunkEvents endEvents)

variable (host : String) {d : Dispatch} {body : Stream}

theorem Passes.bytes_prefix {t : Transfer} (h : Passes body.chunks body.ending t) :
    t.bytes <+: body.bytes := h.sent.flatMap Text.bytes

theorem Passes.whole_bytes {t : Transfer} (h : Passes body.chunks body.ending t)
    (hcomplete : t.complete = true) : body.ending = .complete ∧ t.bytes = body.bytes := by
  obtain ⟨hending, hchunks⟩ := h.whole hcomplete
  exact ⟨hending, congrArg (List.flatMap Text.bytes) hchunks⟩

/-- The bytes that a size counts off are the whole body, if the request fits it. -/
theorem Passes.take_eq {t : Transfer} (h : Passes body.chunks body.ending t)
    (hfits : t.request.Fits body) {n : Nat} (hframing : t.request.framing = .sized n)
    (hhead : t.hasHead = true) (hn : n ≤ t.bytes.length) :
    body.ending = .complete ∧ t.bytes.take n = body.bytes := by
  rcases hfits n hframing with hshort | ⟨hending, hlength⟩ | ⟨hnone, hannounced⟩
  · have hle : n ≤ body.bytes.length := hn.trans h.bytes_prefix.length_le
    omega
  · have hbytes : t.bytes = body.bytes := h.bytes_prefix.eq_of_length_le (by omega)
    rw [hbytes, ← hlength, List.take_length]
    exact ⟨hending, rfl⟩
  · -- nothing but the end of the body can have brought the head out
    have hsent : t.sent = [] := List.prefix_nil.mp (hnone ▸ h.sent)
    have hcomplete : t.complete = true := by simpa [hasHead, hannounced, hsent] using hhead
    obtain ⟨hending, hbytes⟩ := h.whole_bytes hcomplete
    have hempty : t.bytes = [] := by rw [Transfer.bytes, hsent, List.flatMap_nil]
    rw [← hbytes, hempty, List.take_nil]
    exact ⟨hending, rfl⟩

theorem readsWhole_of_fits (hfits : d.Fits body) {events : List TransferEvent}
    (h : Interleaves body events) : ReadsWhole host d body events := by
  intro front back hevents bytes hreceived
  have hpasses : Passes body.chunks body.ending (run host d front) :=
    run_passes host (hevents ▸ h)
  obtain ⟨hhead, hread⟩ := received_eq_some_iff.mp hreceived
  rw [← run_request host d front] at hfits
  cases hframing : (run host d front).request.framing with
  | sized n =>
    rw [hframing, Framing.read] at hread
    split at hread
    · next hn =>
      rw [← Option.some.inj hread]
      exact hpasses.take_eq hfits hframing hhead hn
    · cases hread
  | chunked =>
    rw [hframing, Framing.read] at hread
    split at hread
    · next hcomplete =>
      rw [← Option.some.inj hread]
      exact hpasses.whole_bytes hcomplete
    · cases hread
  | unreadable =>
    rw [hframing] at hread
    cases hread

/-- With all chunks passed on, but before the client's end, a size that they reach is a body. -/
theorem received_chunks {n : Nat} (hframing : d.framing = .sized n)
    (hhead : body.chunks ≠ [] ∨ d.isAnnounced = true) (hn : n ≤ body.bytes.length) :
    (run host d (chunkEvents body.chunks)).received = some (body.bytes.take n) := by
  have hrun : run host d (chunkEvents body.chunks) = { start d with sent := body.chunks } := by
    rw [show run host d = after host (start d) from rfl, after_chunks host rfl]
    rfl
  rw [hrun]
  refine received_eq_some_iff.mpr ⟨?_, ?_⟩
  · rcases hhead with h | h <;> simp [hasHead, start, h]
  · show d.framing.read body.bytes false = _
    rw [hframing, Framing.read, if_pos hn]

/-- In whatever order the events come, the backend reads nothing but the whole body, exactly if the
    request is framed for it. -/
theorem readsWhole_iff :
    (∀ events, Interleaves body events → ReadsWhole host d body events) ↔ d.Fits body := by
  constructor
  · intro hreads n hframing
    rw [or_iff_not_imp_left, Nat.not_lt]
    intro hn
    rw [or_iff_not_imp_right, not_and_or, Bool.not_eq_false]
    intro hhead
    have hreceived := received_chunks host hframing hhead hn
    obtain ⟨hending, hbytes⟩ := hreads _ (interleaves_client body) _ _ rfl _ hreceived
    have hlength := congrArg List.length hbytes
    rw [List.length_take, Nat.min_eq_left hn] at hlength
    exact ⟨hending, hlength.symm⟩
  · exact fun hfits events h => readsWhole_of_fits host hfits h

end Transfer

/-! ## The framing of what is passed on -/

namespace Headers

/-- The names are in lowercase, as those of headers that are handed over. -/
def IsLower (headers : Headers) : Prop := ∀ field ∈ headers, lowercase field.1 = field.1

theorem sent?_eq_get? {headers : Headers} (hlisted : Fields.IsListed headers)
    (hlower : headers.IsLower) (name : String) :
    headers.sent? name = Fields.get? headers name := by
  refine Option.ext fun value => ?_
  rw [hlisted.get?_eq_some_iff, sent?, Option.map_eq_some_iff]
  constructor
  · rintro ⟨field, hfind, rfl⟩
    have hm := List.mem_reverse.mp (List.mem_of_find?_eq_some hfind)
    have hname : lowercase field.1 = name := by simpa using List.find?_some hfind
    rw [hlower field hm] at hname
    exact hname ▸ hm
  · intro hm
    have hname : lowercase name = name := hlower _ hm
    cases hfind : headers.reverse.find? (fun header => lowercase header.1 = name) with
    | none =>
      have hnone := List.find?_eq_none.mp hfind _ (List.mem_reverse.mpr hm)
      simp [hname] at hnone
    | some field =>
      have hfield := List.mem_reverse.mp (List.mem_of_find?_eq_some hfind)
      have hkey : lowercase field.1 = name := by simpa using List.find?_some hfind
      rw [hlower field hfield] at hkey
      refine ⟨field, rfl, ?_⟩
      have hvalue := hlisted.get?_eq_some_iff.mpr (hkey ▸ hfield : (name, field.2) ∈ headers)
      exact Option.some.inj (hvalue.symm.trans (hlisted.get?_eq_some_iff.mpr hm))

end Headers

namespace Forwarder
open Headers
open Transfer

theorem isLower_backendHeaders {headers : Headers} (hlisted : Fields.IsListed headers)
    (hlower : headers.IsLower) (base : Url) : (backendHeaders headers base).IsLower := by
  intro field hm
  have hvalue := (isListed_backendHeaders hlisted base).get?_eq_some_iff.mpr hm
  rw [get?_backendHeaders] at hvalue
  split at hvalue
  · next h => rw [h]; decide
  · split at hvalue
    · next h => rw [h]; decide
    · have hgiven := ((get?_endToEnd_iff hlisted).mp hvalue).1
      exact hlower _ (hlisted.get?_eq_some_iff.mp hgiven)

/-- The lines that a header is sent with, other than `host` and `via`: none if it is about the
    connection, and else those of the client. -/
theorem sentLines_backendHeaders {headers : Headers} (hlisted : Fields.IsListed headers)
    (hlower : headers.IsLower) (base : Url) {name : String}
    (hname : name ∉ ["host", "via", Fields.reserved]) :
    (backendHeaders headers base).sentLines name =
      if name ∈ hopByHop then [] else ((Fields.get? headers name).map HeaderValue.lines).getD [] := by
  simp only [List.mem_cons, List.not_mem_nil, or_false, not_or] at hname
  obtain ⟨hhost, hvia, hkept⟩ := hname
  rw [sentLines, sent?_eq_get? (isListed_backendHeaders hlisted base)
    (isLower_backendHeaders hlisted hlower base), get?_backendHeaders, if_neg hvia, if_neg hhost]
  cases hsent : Fields.get? headers.endToEnd name with
  | some value =>
    obtain ⟨hgiven, -, hhop, -⟩ := (get?_endToEnd_iff hlisted).mp hsent
    rw [if_neg hhop, hgiven]
  | none =>
    split
    · rfl
    · next hhop =>
      cases hgiven : Fields.get? headers name with
      | none => rfl
      | some value =>
        -- only a header without a value is held back, and that has no lines
        have habsent : value = .absent := by
          by_contra hvalue
          rw [(get?_endToEnd_iff hlisted).mpr ⟨hgiven, hvalue, hhop, hkept⟩] at hsent
          cases hsent
        rw [habsent]
        rfl

/-- How a client has coded its body plays no part: the request is framed by its method and the
    length that it gives. -/
theorem framing_dispatch {r : Request} (hlisted : Fields.IsListed r.headers)
    (hlower : r.headers.IsLower) (base : Url) :
    (dispatch base r).framing = .ofLengths r.method
      (((Fields.get? r.headers "content-length").map HeaderValue.lines).getD []) := by
  have hcoding : (backendHeaders r.headers base).sentLines "transfer-encoding" = [] := by
    rw [sentLines_backendHeaders hlisted hlower base (by decide), if_pos (by decide)]
  have hlengths : (backendHeaders r.headers base).sentLines "content-length" =
      ((Fields.get? r.headers "content-length").map HeaderValue.lines).getD [] := by
    rw [sentLines_backendHeaders hlisted hlower base (by decide), if_neg (by decide)]
  rw [← hlengths]
  show Framing.ofRequest r.method (backendHeaders r.headers base) = _
  simp only [Framing.ofRequest, hcoding]

/-- Without a length the methods that have no body get a framing that fits nothing else. -/
theorem fits_iff_of_no_length {r : Request} (hlisted : Fields.IsListed r.headers)
    (hlower : r.headers.IsLower) (hlength : Fields.get? r.headers "content-length" = none)
    (base : Url) (body : Stream) :
    (dispatch base r).Fits body ↔ (Framing.isBare r.method = true →
      (body.ending = .complete ∧ body.bytes = []) ∨
        (body.chunks = [] ∧ (dispatch base r).isAnnounced = false)) := by
  have hframing := framing_dispatch hlisted hlower base
  rw [hlength] at hframing
  change _ = (if Framing.isBare r.method then Framing.sized 0 else .chunked) at hframing
  unfold Dispatch.Fits
  rw [hframing]
  by_cases hbare : Framing.isBare r.method = true
  · simp [hbare, List.length_eq_zero_iff]
  · simp [hbare]

/-! ## A forwarding as a whole -/

/-- The request to a server settles once, in whatever order the events of the client, of the
    backend and of the outgoing request come, and it is ended only behind the whole body of a client
    that has sent all of it. The backend reads nothing but this body, in whatever order the events
    come, exactly if the request is framed for it. What is sent over a network is such a run, and
    what the backend reads there is noted. -/
theorem forwarding_settles_once {base : Url} (hbase : base.IsWeb) (r : Request) :
    (∀ events, AreDelivered events → SettlesOnce base.authority (dispatch base r) events) ∧
    (∀ body front back, Interleaves body (front ++ back) →
      Passes body.chunks body.ending (run base.authority (dispatch base r) front)) ∧
    (∀ body, (∀ events, Interleaves body events →
        ReadsWhole base.authority (dispatch base r) body events) ↔ (dispatch base r).Fits body) ∧
    ∀ (network : Network) (x : Exchange),
      (∀ status headers answer,
        (backendOf network base r).reply = .answer status headers answer → headers.Delivered) →
      let events := (backendOf network base r).events x.inbound
      let t := run base.authority (dispatch base r) events
      Interleaves x.inbound events ∧
        SettlesOnce base.authority (dispatch base r) events ∧
        send network base r x = (outcomeOf t.outcome,
          ⟨x.journal ++
              [.dispatched { dispatch base r with passed := t.passed, received := t.received }],
            { x.inbound with chunks := t.left }⟩) := by
  refine ⟨fun events => settlesOnce base.authority _, fun body front back h => ?_,
    fun body => readsWhole_iff base.authority, fun network x hdelivered => ?_⟩
  · exact run_passes base.authority h
  · have hevents := areDelivered_events x.inbound hdelivered
    exact ⟨interleaves_events _ _, settlesOnce base.authority _ hevents, send_eq hbase network r x⟩

/-- A backend that answers as soon as it has the first chunk. -/
def earlyBackend : Backend :=
  ⟨.answer none [("connection", .text "close"), ("etag", .text "1")] .empty, .after 1⟩

/-- Its answer settles the matter, and it still reads the rest of the body. -/
theorem early_answer_settles :
    let body : Stream := ⟨["a", "b"], .complete⟩
    let d := dispatch Middleware.apiBase Middleware.apiRequest
    Middleware.apiBase.IsWeb ∧
    (send (fun _ => earlyBackend) Middleware.apiBase Middleware.apiRequest (.begin body)).1 =
      .done ⟨502, [("etag", .text "1")], .stream .empty⟩ ∧
    d.Fits body ∧ ReadsWhole "backend.test:5000" d body (earlyBackend.events body) ∧
    (run "backend.test:5000" d (earlyBackend.events body)).received = some [97, 98] := by
  intro body d
  have hdelivered : ∀ status headers answer,
      earlyBackend.reply = .answer status headers answer → headers.Delivered := by
    intro status headers answer hreply
    obtain ⟨-, rfl, -⟩ := Reply.answer.inj hreply
    refine ⟨?_, by decide⟩
    unfold Fields.IsListed
    decide
  have hfits : d.Fits body := by
    intro n hn
    have hchunked : d.framing = .chunked := by decide
    rw [hchunked] at hn
    cases hn
  obtain ⟨-, -, hreads, hover⟩ :=
    forwarding_settles_once (show Middleware.apiBase.IsWeb from .inl rfl) Middleware.apiRequest
  obtain ⟨hinterleaves, hsettles, hsend⟩ :=
    hover (fun _ => earlyBackend) (.begin body) hdelivered
  have hfirst := (congrArg Prod.fst hsend).trans (congrArg outcomeOf hsettles.first)
  exact ⟨.inl rfl, hfirst.trans rfl, hfits, (hreads body).mpr hfits _ hinterleaves, by decide⟩

/-- A request with a body that its client sends in chunks, by a method without a body. -/
def chunkedDelete : Request :=
  { Middleware.apiRequest with method := "DELETE", headers := [("transfer-encoding", .text "chunked")] }

/-- A body that nothing marks off is taken for an empty one, as soon as it begins. -/
theorem unframed_body_lost :
    ¬ ∀ (base : Url) (r : Request) (body : Stream), base.IsWeb →
      (∀ events, AreDelivered events → SettlesOnce base.authority (dispatch base r) events) ∧
        ∀ events, Interleaves body events → ReadsWhole base.authority (dispatch base r) body events := by
  intro h
  let body : Stream := ⟨["a", "b"], .complete⟩
  have hlisted : Fields.IsListed chunkedDelete.headers := by
    unfold Fields.IsListed
    decide
  have hlower : Headers.IsLower chunkedDelete.headers := by
    unfold Headers.IsLower
    decide
  obtain ⟨-, hreads⟩ := h Middleware.apiBase chunkedDelete body (.inl rfl)
  have hfits := (fits_iff_of_no_length hlisted hlower rfl Middleware.apiBase body).mp
    ((readsWhole_iff Middleware.apiBase.authority).mp hreads)
  rcases hfits (by decide) with ⟨-, hbytes⟩ | ⟨hchunks, -⟩
  · exact absurd hbytes (by decide)
  · exact absurd hchunks (by decide)

end Forwarder

end Gateway
