import Gateway.Proofs.Answering
import Gateway.Proofs.Fields
import Gateway.Scripted
import Gateway.Server

/- Which of the configured headers a client finds on the head of an answer. The headers
   middleware leaves alone what a response has and adds the rest under lowercase names
   (`mem_fill_iff`). It stands inside of what delivers the answers, so the notices that the server
   writes on its own, about a host that makes no URL or a handler that fails, do not go through it:
   `configured_headers_iff` says for every head, on a response or on a bare socket, which
   configured headers it carries. -/
namespace Gateway

/-! ## Adding headers to a response -/

namespace Headers

/-- A header of this name is there, in any letter case. -/
def Sets (headers : Headers) (name : String) : Prop :=
  ∃ header ∈ headers, lowercase header.1 = lowercase name

/-- A head has a header for a configured one: a header of its name that the handler has set, or
    one of its name with its value. -/
def Carries (own head : Headers) (field : String × String) : Prop :=
  ∃ header ∈ head, lowercase header.1 = lowercase field.1 ∧
    (header ∈ own ∨ header.2 = .text field.2)

variable {own : Headers} {extra : Fields String} {field : String × String}

theorem contains_iff_sets {name : String} :
    ((Fields.names own).map lowercase).contains (lowercase name) = true ↔ own.Sets name := by
  simp [Sets, Fields.names]

theorem fill_append_singleton (extra : Fields String) (field : String × String) (own : Headers) :
    own.fill (extra ++ [field]) =
      if ((Fields.names own).map lowercase).contains (lowercase field.1) then own.fill extra
      else Fields.assign (lowercase field.1) (.text field.2) (own.fill extra) := by
  rw [fill, List.foldl_append]
  rfl

theorem isListed_fill (h : Fields.IsListed own) (extra : Fields String) :
    Fields.IsListed (own.fill extra) := by
  induction extra using List.reverseRecOn with
  | nil => exact h
  | append_singleton init field ih =>
    rw [fill_append_singleton]
    split
    · exact ih
    · exact ih.assign _ _

theorem Sets.congr {name other : String} (hname : lowercase name = lowercase other) :
    own.Sets name ↔ own.Sets other := by
  rw [Sets, Sets, hname]

/-- The header is added with the value that is configured last for its name. -/
def IsAdded (extra : Fields String) (own : Headers) (header : String × HeaderValue) : Prop :=
  ¬ own.Sets header.1 ∧ header.1 ≠ Fields.reserved ∧ lowercase header.1 = header.1 ∧
    ∃ field, extra.lastFor header.1 = some field ∧ header.2 = .text field.2

theorem isAdded_append_of_ne {header : String × HeaderValue}
    (h : lowercase field.1 ≠ header.1) :
    IsAdded (extra ++ [field]) own header ↔ IsAdded extra own header := by
  refine and_congr_right fun _ => and_congr_right fun _ => and_congr_right fun hlower => ?_
  rw [Fields.lastFor_append_singleton, if_neg (by rwa [hlower])]

/-- What a response has stays there. Added to it are lowercase names that it does not have, with
    the value that is configured last. -/
theorem mem_fill_iff (h : Fields.IsListed own) {header : String × HeaderValue} :
    header ∈ own.fill extra ↔ header ∈ own ∨ IsAdded extra own header := by
  obtain ⟨name, value⟩ := header
  induction extra using List.reverseRecOn with
  | nil => simp [fill, IsAdded, Fields.lastFor]
  | append_singleton init field ih =>
    rw [fill_append_singleton]
    by_cases hname : lowercase field.1 = name
    · subst hname
      have hlower := lowercase_lowercase field.1
      have hsame : own.Sets (lowercase field.1) ↔ own.Sets field.1 := Sets.congr hlower
      by_cases hsets : own.Sets field.1
      · -- neither way is a header added whose name is there
        rw [if_pos (contains_iff_sets.mpr hsets), ih]
        simp [IsAdded, hsame, hsets]
      · rw [if_neg (mt contains_iff_sets.mp hsets), Fields.assign]
        by_cases hreserved : lowercase field.1 = Fields.reserved
        · rw [if_pos hreserved, ih]
          simp [IsAdded, hreserved]
        · -- the field is now the last one for its name
          have hown : ∀ other, (lowercase field.1, other) ∉ own := fun other hm =>
            hsets ⟨_, hm, hlower⟩
          have hlast : Fields.lastFor (init ++ [field]) (lowercase field.1) = some field := by
            rw [Fields.lastFor_append_singleton, if_pos hlower.symm]
          rw [if_neg hreserved, (isListed_fill h init).mem_set_iff]
          simp [IsAdded, hsame, hsets, hown, hlast, hlower, hreserved]
    · rw [isAdded_append_of_ne hname]
      split
      · exact ih
      · rw [Fields.assign]
        split
        · exact ih
        · rw [(isListed_fill h init).mem_set_iff, ih]
          simp [Ne.symm hname]

/-- A name that is not there is added with the value that is configured last. -/
theorem mem_fill_of_lastFor (h : Fields.IsListed own) {name : String} {last : String × String}
    (hsets : ¬ own.Sets name) (hname : lowercase name ≠ Fields.reserved)
    (hlast : extra.lastFor name = some last) :
    (lowercase name, .text last.2) ∈ own.fill extra := by
  have hlower := lowercase_lowercase name
  refine (mem_fill_iff h).mpr (.inr ⟨mt (Sets.congr hlower).mp hsets, hname, hlower, last, ?_, rfl⟩)
  rw [Fields.lastFor_congr hlower, hlast]

/-- The header is the last one that is configured for its name, which is not the reserved one. -/
def Counts (extra : Fields String) (field : String × String) : Prop :=
  lowercase field.1 ≠ Fields.reserved ∧ (extra.lastFor field.1).map (·.2) = some field.2

/-- A configured header is there if the response has one of its name, or if it is the one that
    counts. -/
theorem fill_carries_iff (h : Fields.IsListed own) :
    Carries own (own.fill extra) field ↔ own.Sets field.1 ∨ Counts extra field := by
  constructor
  · rintro ⟨header, hm, hname, hvalue⟩
    rcases (mem_fill_iff h).mp hm with hown | ⟨hsets, hreserved, hheader, other, hlast, htext⟩
    · exact .inl ⟨header, hown, hname⟩
    · rcases hvalue with hown | hvalue
      · exact absurd ⟨header, hown, rfl⟩ hsets
      · refine .inr ⟨by rwa [← hname, hheader], ?_⟩
        rw [Fields.lastFor_congr hname.symm, hlast, Option.map_some]
        exact congrArg some (HeaderValue.text.inj (htext.symm.trans hvalue))
  · rintro (⟨header, hown, hname⟩ | ⟨hreserved, hlast⟩)
    · exact ⟨header, (mem_fill_iff h).mpr (.inl hown), hname, .inl hown⟩
    · by_cases hsets : own.Sets field.1
      · obtain ⟨header, hown, hname⟩ := hsets
        exact ⟨header, (mem_fill_iff h).mpr (.inl hown), hname, .inl hown⟩
      · obtain ⟨last, hlast, hvalue⟩ := Option.map_eq_some_iff.mp hlast
        exact ⟨_, mem_fill_of_lastFor h hsets hreserved hlast, lowercase_lowercase field.1,
          .inr (by rw [hvalue])⟩

end Headers

/-! ## The head of an answer -/

/-- The head that has gone out to a client. -/
def Client.head? (c : Client) : Option (Number × Headers) :=
  if c.headSent then c.heads.getLast? else none

/-- The response of a handler that goes out to a client, if one does: the request can be read,
    the handler responds, and its head can be written. -/
def Deliver.responseOf (handler : Handler) (i : Incoming) (x : Exchange) :
    (headFault : Option String) → Option Response
  | some _ => none
  | none =>
    match i.request? with
    | none => none
    | some request =>
      match (handler request x).1 with
      | .done r => some r
      | _ => none

namespace Deliver

variable {headFault endFault : Option String}

theorem finish_head? (last : Option String) (d : Delivery) :
    (finish last d).2.client.head? = d.client.head? := by
  rw [finish, Run.get_bind]
  cases d.client.endFault <;> rfl

theorem pipe_head? (s : Stream) (d : Delivery) :
    (pipe s d).2.client.head? = d.client.head? := by
  rw [pipe, Run.bind_of_done _ (writeAll_run s.chunks d), Run.modify_bind]
  cases s.ending <;> rfl

theorem writeHead_of_fault {d : Delivery} {message : String} (h : d.client.headFault = some message)
    (status : Number) (headers : Headers) :
    writeHead status headers d = (.failed (.failure message none),
      { d with client := { d.client with
        heads := d.client.heads ++ [(status, headers)], headFault := none } }) := by
  rw [writeHead, Run.get_bind, onClient, Run.modify_bind, h]
  rfl

theorem writeHead_of_no_fault {d : Delivery} (h : d.client.headFault = none) (status : Number)
    (headers : Headers) :
    writeHead status headers d = (.done (),
      { d with client := { d.client with
        heads := d.client.heads ++ [(status, headers)], headSent := true } }) := by
  obtain ⟨exchange, ⟨headFault, endFault, heads, sent, chunks, ends, destroyed, failure⟩, stream,
    tied⟩ := d
  obtain rfl : headFault = none := h
  rfl

/-- A head that is written and then ended is the one that goes out, unless it cannot be written. -/
theorem notice_head? {d : Delivery} (h : d.client.headSent = false) (status : Number)
    (headers : Headers) (body : String) :
    ((do writeHead status headers; finish (some body)) d).2.client.head? =
      if d.client.headFault = none then some (status, headers) else none := by
  cases hfault : d.client.headFault with
  | none =>
    rw [Run.bind_of_done _ (writeHead_of_no_fault hfault status headers), finish_head?, Client.head?,
      if_pos rfl, List.getLast?_concat, if_pos rfl]
  | some message =>
    rw [Run.bind_of_failed _ (writeHead_of_fault hfault status headers), Client.head?, h]
    rfl

/-- A notice of the server is all that can go out when the handler has failed. -/
theorem sendFailure_head? (i : Incoming) (e : Thrown) {d : Delivery} (h : d.client.headSent = false) :
    (sendFailure i e d).2.client.head? =
      if e.message? ≠ none ∧ d.client.headFault = none then some (500, plainText) else none := by
  rw [sendFailure]
  cases he : e.message? with
  | none =>
    rw [Run.bind_of_failed _ (Thrown.shown_of_none he d), Client.head?, h]
    rfl
  | some reason =>
    rw [Run.bind_of_done _ (Thrown.shown_of_some he d), report_bind, Run.get_bind, h,
      if_neg Bool.false_ne_true]
    refine (notice_head? (d := { d with exchange := d.exchange.append _ }) h 500 plainText _).trans ?_
    simp

/-- Once a head has gone out, no other one does. -/
theorem sendFailure_head?_of_sent (i : Incoming) (e : Thrown) {d : Delivery}
    (h : d.client.headSent = true) :
    (sendFailure i e d).2.client.head? = d.client.head? := by
  rw [sendFailure]
  cases he : e.message? with
  | none => rw [Run.bind_of_failed _ (Thrown.shown_of_none he d)]
  | some reason =>
    rw [Run.bind_of_done _ (Thrown.shown_of_some he d), report_bind, Run.get_bind, h, if_pos rfl,
      finish_head?]

theorem bind_head? {α β : Type} (x : Deliver α) {f : α → Deliver β}
    (h : ∀ a d, (f a d).2.client.head? = d.client.head?) (d : Delivery) :
    ((x >>= f) d).2.client.head? = (x d).2.client.head? := by
  rcases hx : x d with ⟨outcome, d'⟩
  cases outcome with
  | done a => rw [Run.bind_of_done f hx, h]
  | failed e => rw [Run.bind_of_failed f hx]
  | pending => rw [Run.bind_of_pending f hx]

/-- The head is settled before a stream is passed on. -/
theorem answer_head? (handler : Handler) {i : Incoming} {request : Request}
    (h : i.request? = some request) (d : Delivery) :
    (answer handler i d).2.client.head? = (settle handler i request d).2.client.head? := by
  rw [answer, h]
  refine bind_head? _ (fun rest d => ?_) d
  cases rest with
  | none => rfl
  | some s => exact pipe_head? s d

/-- A response whose head cannot be written leaves the client without a head. -/
theorem send_of_fault (endFault : Option String) (r : Response) (y : Exchange) (message : String) :
    ∃ d, send r (.begin y (.fresh (some message) endFault)) = (.failed (.failure message none), d) ∧
      d.client.headSent = false ∧ d.client.headFault = none := by
  obtain ⟨status, headers, body⟩ := r
  cases body <;> exact ⟨_, rfl, rfl, rfl⟩

/-- The head of any other response is written before anything of it can fail. -/
theorem send_of_no_fault (endFault : Option String) (r : Response) (y : Exchange) :
    ∃ d, d.client.headSent = true ∧ d.client.head? = some (r.status, r.headers) ∧
      ((∃ rest, send r (.begin y (.fresh none endFault)) = (.done rest, d)) ∨
        ∃ e, send r (.begin y (.fresh none endFault)) = (.failed e, d)) := by
  obtain ⟨status, headers, body⟩ := r
  cases hstream : body.stream? with
  | some s =>
    obtain rfl := Body.stream?_eq_some_iff.mp hstream
    exact ⟨_, rfl, rfl, .inl ⟨_, rfl⟩⟩
  | none =>
    cases endFault with
    | none => exact ⟨_, rfl, rfl, .inl ⟨_, send_run_whole y status headers hstream⟩⟩
    | some message => cases body with
      | stream s => cases hstream
      | _ => exact ⟨_, rfl, rfl, .inr ⟨_, rfl⟩⟩

section
variable {handler : Handler} {i : Incoming} {request : Request} {x y : Exchange} {r : Response}

theorem settle_of_send_failed (hrun : handler request x = (.done r, y)) {c : Client} {e : Thrown}
    {d : Delivery} (hsend : send r (.begin y c) = (.failed e, d)) :
    settle handler i request (.begin x c) = (sendFailure i e >>= fun _ => pure none) d := by
  refine Run.rescue_of_failed _ ?_
  rw [Run.bind_of_done _ (ofEffect_begin hrun c), hsend]

/-- The response goes out with its head as it is. -/
theorem settle_head?_of_no_fault (hrun : handler request x = (.done r, y)) :
    (settle handler i request (.begin x (.fresh none endFault))).2.client.head? =
      some (r.status, r.headers) := by
  obtain ⟨d, hsent, hhead, ⟨rest, hsend⟩ | ⟨e, hsend⟩⟩ := send_of_no_fault endFault r y
  · rw [settle_responded hrun _ hsend, hhead]
  · rw [settle_of_send_failed hrun hsend, bind_head? _ (fun _ _ => rfl),
      sendFailure_head?_of_sent i e hsent, hhead]

/-- Instead of a response whose head cannot be written, the notice of a failure goes out. -/
theorem settle_head?_of_fault (hrun : handler request x = (.done r, y)) (message : String) :
    (settle handler i request (.begin x (.fresh (some message) endFault))).2.client.head? =
      some (500, plainText) := by
  obtain ⟨d, hsend, hsent, hfault⟩ := send_of_fault endFault r y message
  rw [settle_of_send_failed hrun hsend, bind_head? _ (fun _ _ => rfl), sendFailure_head? i _ hsent,
    if_pos ⟨Option.some_ne_none message, hfault⟩]

theorem responseOf_eq_some_iff :
    responseOf handler i x headFault = some r ↔ headFault = none ∧
      ∃ request y, i.request? = some request ∧ handler request x = (.done r, y) := by
  cases headFault with
  | some message => simp [responseOf]
  | none =>
    cases hrequest : i.request? with
    | none => simp [responseOf, hrequest]
    | some request =>
      rcases hrun : handler request x with ⟨outcome, y⟩
      cases outcome <;> simp [responseOf, hrequest, hrun]

/-- A response goes out with its own head. -/
theorem answer_head?_of_responseOf (h : responseOf handler i x headFault = some r) :
    (answer handler i (.begin x (.fresh headFault endFault))).2.client.head? =
      some (r.status, r.headers) := by
  obtain ⟨rfl, request, y, hrequest, hrun⟩ := responseOf_eq_some_iff.mp h
  rw [answer_head? handler hrequest, settle_head?_of_no_fault hrun]

/-- Any other head is the one of a notice. -/
theorem headers_eq_plainText (h : responseOf handler i x headFault = none) {head : Number × Headers}
    (hhead : (answer handler i (.begin x (.fresh headFault endFault))).2.client.head? = some head) :
    head.2 = plainText := by
  have hunsent : (Delivery.begin x (.fresh headFault endFault)).client.headSent = false := rfl
  cases hrequest : i.request? with
  | none =>
    rw [answer, hrequest, sendRefusal, notice_head? hunsent] at hhead
    split at hhead <;> cases hhead
    rfl
  | some request =>
    rw [answer_head? handler hrequest] at hhead
    rcases hrun : handler request x with ⟨outcome, y⟩
    cases outcome with
    | done r =>
      cases headFault with
      | none =>
        rw [responseOf_eq_some_iff.mpr ⟨rfl, request, y, hrequest, hrun⟩] at h
        cases h
      | some message =>
        rw [settle_head?_of_fault hrun message] at hhead
        cases hhead
        rfl
    | failed e =>
      rw [settle_failed hrun, bind_head? _ (fun _ _ => rfl), sendFailure_head? i e rfl] at hhead
      split at hhead <;> cases hhead
      rfl
    | pending =>
      have hpending : settle handler i request (.begin x (.fresh headFault endFault)) =
          (.pending, .begin y (.fresh headFault endFault)) := by
        rw [settle, Run.rescue, Run.bind_of_pending _ (ofEffect_begin hrun _)]
      rw [hpending] at hhead
      cases hhead

end

end Deliver

/-! ## The head on a bare socket -/

namespace Socket

/-- The headers that are written: those with a value, and that the connection is closed. -/
def sentHeaders (headers : Headers) : Headers :=
  headers.filter (fun header => lowercase header.1 ≠ "connection" ∧ header.2.lines ≠ []) ++
    [("Connection", .text "close")]

/-- The text of a head with these headers. -/
def headText (status : Number) (headers : Headers) : String :=
  String.join ((statusLine status :: headers.flatMap fun header =>
    header.2.lines.map fun line => header.1 ++ ": " ++ line).map (· ++ lineEnd)) ++ lineEnd

theorem head_eq_headText (r : Response) : head r = headText r.status (sentHeaders r.headers) := by
  have hlines : r.headers.flatMap (fun header => headerLines header.1 header.2) =
      (r.headers.filter fun header => lowercase header.1 ≠ "connection" ∧ header.2.lines ≠ []).flatMap
        fun header => header.2.lines.map fun line => header.1 ++ ": " ++ line := by
    induction r.headers with
    | nil => rfl
    | cons header rest ih =>
      rw [List.flatMap_cons, ih, List.filter_cons, headerLines]
      by_cases hname : lowercase header.1 = "connection"
      · simp [hname]
      · by_cases hvalue : header.2.lines = [] <;> simp [hname, hvalue]
  rw [head, headLines, hlines, headText, sentHeaders, List.flatMap_append]
  rfl

/-- Behind the head comes the body. -/
theorem respond_written (r : Response) :
    (fresh.respond r).written = head r ++ String.join r.body.chunks := by
  obtain ⟨status, headers, body⟩ := r
  have hwritten (text : String) : (fresh.write text).written = text := String.empty_append
  cases body with
  | none => exact (hwritten _).trans String.append_empty.symm
  | text whole => exact congrArg (· ++ whole) (hwritten _)
  | bytes whole => exact congrArg (· ++ whole) (hwritten _)
  | stream s =>
    obtain ⟨chunks, ending⟩ := s
    cases ending <;> exact congrArg (· ++ String.join chunks) (hwritten _)

end Socket

namespace Upgrade
variable {handler : Handler} {i : Incoming} {x : Exchange} {r : Response}

theorem answer_of_responseOf (h : Deliver.responseOf handler i x none = some r) :
    (answer handler i x).socket = Socket.fresh.respond r := by
  obtain ⟨-, request, y, hrequest, hrun⟩ := Deliver.responseOf_eq_some_iff.mp h
  have hresponse : response handler i x = (.done r, y) := by
    rw [response, hrequest]
    exact hrun
  rw [answer, hresponse]

/-- Without a response nothing is written on the socket. -/
theorem answer_written_eq_empty (h : Deliver.responseOf handler i x none = none) :
    (answer handler i x).socket.written = "" := by
  rcases hresponse : response handler i x with ⟨outcome, y⟩
  cases outcome with
  | done r =>
    cases hrequest : i.request? with
    | none =>
      rw [response, hrequest] at hresponse
      cases hresponse
    | some request =>
      rw [response, hrequest] at hresponse
      rw [Deliver.responseOf_eq_some_iff.mpr ⟨rfl, request, y, hrequest, hresponse⟩] at h
      cases h
  | failed e =>
    rw [answer, hresponse]
    cases he : e.message? <;> simp only [he] <;> rfl
  | pending =>
    rw [answer, hresponse]
    rfl

end Upgrade

/-! ## The server -/

namespace Middleware

theorem fillHeaders_headers (extra : Fields String) (r : Response) :
    (fillHeaders extra r).headers = r.headers.fill extra := by
  rw [fillHeaders]
  split
  · next hempty =>
    rw [List.isEmpty_iff.mp hempty]
    rfl
  · rfl

theorem fillHeaders_status (extra : Fields String) (r : Response) :
    (fillHeaders extra r).status = r.status := by
  rw [fillHeaders]
  split <;> rfl

theorem fillHeaders_body (extra : Fields String) (r : Response) :
    (fillHeaders extra r).body = r.body := by
  rw [fillHeaders]
  split <;> rfl

section
variable {extra : Fields String} {next : Handler} {request : Request} {x y : Exchange}

theorem addHeaders_of_done {r : Response} (h : next request x = (.done r, y)) :
    addHeaders extra next request x = (.done (fillHeaders extra r), y) :=
  Run.bind_of_done _ h

theorem addHeaders_of_failed {e : Thrown} (h : next request x = (.failed e, y)) :
    addHeaders extra next request x = (.failed e, y) :=
  Run.bind_of_failed _ h

theorem addHeaders_of_pending (h : next request x = (.pending, y)) :
    addHeaders extra next request x = (.pending, y) :=
  Run.bind_of_pending _ h

end

theorem responseOf_addHeaders (extra : Fields String) (next : Handler) (i : Incoming)
    (x : Exchange) (headFault : Option String) :
    Deliver.responseOf (addHeaders extra next) i x headFault =
      (Deliver.responseOf next i x headFault).map (fillHeaders extra) := by
  cases headFault with
  | some message => rfl
  | none =>
    rw [Deliver.responseOf, Deliver.responseOf]
    cases i.request? with
    | none => rfl
    | some request =>
      dsimp only
      rcases hrun : next request x with ⟨outcome, y⟩
      cases outcome with
      | done r => rw [addHeaders_of_done hrun]; rfl
      | failed e => rw [addHeaders_of_failed hrun]; rfl
      | pending => rw [addHeaders_of_pending hrun]; rfl

end Middleware

namespace Headers
variable {own : Headers} {extra : Fields String} {field : String × String}

/-- What it takes for a configured header to be on the head of an answer. A notice of the server
    has one header only. -/
def ReachesHead (extra : Fields String) : Option Response → String × String → Prop
  | some r, field => r.headers.Sets field.1 ∨ Counts extra field
  | none, field => lowercase field.1 = "content-type" ∧ field.2 = "text/plain"

/-- What it takes for a configured header to be on the head of a response on a bare socket. There
    a header without a value is left out, and the server alone speaks about the connection. -/
def ReachesSocket (extra : Fields String) (own : Headers) (field : String × String) : Prop :=
  if lowercase field.1 = "connection" then ("Connection", .text "close") ∈ own ∨ field.2 = "close"
  else (∃ header ∈ own, lowercase header.1 = lowercase field.1 ∧ header.2.lines ≠ []) ∨
    (¬ own.Sets field.1 ∧ Counts extra field)

theorem plainText_carries_iff :
    Carries [] Deliver.plainText field ↔
      lowercase field.1 = "content-type" ∧ field.2 = "text/plain" := by
  have hname : lowercase "Content-Type" = "content-type" := by decide
  simp only [Carries, Deliver.plainText, List.mem_singleton, List.not_mem_nil, false_or,
    exists_eq_left, hname, HeaderValue.text.injEq]
  exact and_congr eq_comm eq_comm

theorem lowercase_connection : lowercase "Connection" = "connection" := by decide

/-- About the connection only the header of the server is sent. -/
theorem sentHeaders_carries_connection_iff (hname : lowercase field.1 = "connection")
    (headers : Headers) :
    Carries own (Socket.sentHeaders headers) field ↔
      ("Connection", .text "close") ∈ own ∨ field.2 = "close" := by
  constructor
  · rintro ⟨header, hm, hsame, hvalue⟩
    rcases List.mem_append.mp hm with hm | hm
    · simp [hsame, hname] at hm
    · obtain rfl := List.mem_singleton.mp hm
      exact hvalue.imp_right fun htext => (HeaderValue.text.inj htext).symm
  · intro hvalue
    refine ⟨("Connection", .text "close"), ?_, lowercase_connection.trans hname.symm, ?_⟩
    · exact List.mem_append_right _ (List.mem_singleton_self _)
    · exact hvalue.imp_right fun htext => by rw [htext]

theorem mem_sentHeaders_iff {header : String × HeaderValue}
    (hname : lowercase header.1 ≠ "connection") (headers : Headers) :
    header ∈ Socket.sentHeaders headers ↔ header ∈ headers ∧ header.2.lines ≠ [] := by
  have hother : header ≠ ("Connection", .text "close") := by
    rintro rfl
    exact hname lowercase_connection
  simp [Socket.sentHeaders, hname, hother]

theorem sentHeaders_carries_iff (h : Fields.IsListed own) :
    Carries own (Socket.sentHeaders (own.fill extra)) field ↔ ReachesSocket extra own field := by
  rw [ReachesSocket]
  split
  · next hname => exact sentHeaders_carries_connection_iff hname _
  · next hname =>
    have hsent {header : String × HeaderValue} (hsame : lowercase header.1 = lowercase field.1) :
        header ∈ Socket.sentHeaders (own.fill extra) ↔
          header ∈ own.fill extra ∧ header.2.lines ≠ [] :=
      mem_sentHeaders_iff (hsame ▸ hname) _
    constructor
    · rintro ⟨header, hm, hsame, hvalue⟩
      obtain ⟨hm, hlines⟩ := (hsent hsame).mp hm
      rcases (mem_fill_iff h).mp hm with hown | ⟨hsets, -⟩
      · exact .inl ⟨header, hown, hsame, hlines⟩
      · have hunset : ¬ own.Sets field.1 := mt (Sets.congr hsame).mpr hsets
        have hcarries : Carries own (own.fill extra) field := ⟨header, hm, hsame, hvalue⟩
        exact .inr ⟨hunset, ((fill_carries_iff h).mp hcarries).resolve_left hunset⟩
    · rintro (⟨header, hown, hsame, hlines⟩ | ⟨hunset, hcounts⟩)
      · have hm : header ∈ own.fill extra := (mem_fill_iff h).mpr (.inl hown)
        exact ⟨header, (hsent hsame).mpr ⟨hm, hlines⟩, hsame, .inl hown⟩
      · obtain ⟨header, hm, hsame, hvalue⟩ := (fill_carries_iff h).mpr (.inr hcounts)
        have htext : header.2 = .text field.2 :=
          hvalue.resolve_left fun hown => hunset ⟨header, hown, hsame⟩
        have hlines : header.2.lines ≠ [] := by
          rw [htext]
          exact List.cons_ne_nil _ _
        exact ⟨header, (hsent hsame).mpr ⟨hm, hlines⟩, hsame, .inr htext⟩

end Headers

namespace Server

/-- The handlers behind the one that adds headers. -/
def inner (s : Server) (forward : Forwarder) (fallback : Option Handler) : Handler :=
  Middleware.proxy s.rules forward (fallback.getD (NotFound.handler s.rules))

theorem handler_eq_addHeaders (s : Server) (forward : Forwarder) (fallback : Option Handler) :
    s.handler forward fallback = Middleware.addHeaders s.headers (s.inner forward fallback) := rfl

/-- The response of these handlers that goes out to a client, if one does. -/
def response? (s : Server) (forward : Forwarder) (fallback : Option Handler) (i : Incoming)
    (inbound : Stream) (headFault : Option String) : Option Response :=
  Deliver.responseOf (s.inner forward fallback) i (.begin inbound) headFault

open Headers in
/-- Which configured headers are on the head that a client is sent. Those of a response have all
    that it does not set itself, apart from the reserved name and from the spellings of a name that
    is configured again; a notice of the server has none. For a request for another protocol the
    same head is written on the socket, or nothing at all. -/
theorem configured_headers_iff (s : Server) (forward : Forwarder) (fallback : Option Handler)
    (i : Incoming) (inbound : Stream)
    (hobject : ∀ r, s.response? forward fallback i inbound none = some r →
      Fields.IsListed r.headers) :
    (∀ headFault endFault head,
      (s.answer forward fallback i inbound (.fresh headFault endFault)).2.client.head? = some head →
        ∀ field ∈ s.headers,
          Carries ((s.response? forward fallback i inbound headFault).elim [] Response.headers)
            head.2 field ↔
          ReachesHead s.headers (s.response? forward fallback i inbound headFault) field) ∧
    (∀ r, s.response? forward fallback i inbound none = some r →
      (∃ rest, (s.answerUpgrade forward fallback i inbound).socket.written =
        Socket.headText r.status (Socket.sentHeaders (r.headers.fill s.headers)) ++ rest) ∧
      ∀ field ∈ s.headers,
        Carries r.headers (Socket.sentHeaders (r.headers.fill s.headers)) field ↔
          ReachesSocket s.headers r.headers field) ∧
    (s.response? forward fallback i inbound none = none →
      (s.answerUpgrade forward fallback i inbound).socket.written = "") := by
  have hfilled (headFault : Option String) :=
    Middleware.responseOf_addHeaders s.headers (s.inner forward fallback) i (.begin inbound) headFault
  refine ⟨fun headFault endFault head hhead field _ => ?_, fun r hr => ⟨?_, fun field _ => ?_⟩,
    fun hnone => ?_⟩
  · rw [response?]
    cases hr : Deliver.responseOf (s.inner forward fallback) i (.begin inbound) headFault with
    | none =>
      have hnotice : head.2 = Deliver.plainText :=
        Deliver.headers_eq_plainText (by rw [handler_eq_addHeaders, hfilled, hr]; rfl) hhead
      rw [hnotice]
      exact plainText_carries_iff
    | some r =>
      have hlisted : Fields.IsListed r.headers := by
        obtain ⟨rfl, -⟩ := Deliver.responseOf_eq_some_iff.mp hr
        exact hobject r hr
      have hsent : (s.answer forward fallback i inbound (.fresh headFault endFault)).2.client.head? =
          some ((Middleware.fillHeaders s.headers r).status, (Middleware.fillHeaders s.headers r).headers) :=
        Deliver.answer_head?_of_responseOf ((hfilled headFault).trans (congrArg _ hr))
      obtain rfl := Option.some.inj (hsent.symm.trans hhead)
      rw [Middleware.fillHeaders_headers]
      exact fill_carries_iff hlisted
  · rw [answerUpgrade, handler_eq_addHeaders,
      Upgrade.answer_of_responseOf ((hfilled none).trans (congrArg _ hr))]
    refine ⟨String.join (Middleware.fillHeaders s.headers r).body.chunks, ?_⟩
    rw [Socket.respond_written, Socket.head_eq_headText, Middleware.fillHeaders_headers,
      Middleware.fillHeaders_status]
  · exact sentHeaders_carries_iff (hobject r hr)
  · exact Upgrade.answer_written_eq_empty ((hfilled none).trans (congrArg _ hnone))

/-- A server without rules that adds a header. -/
def labelled : Server := ⟨[], [("X-A", "1")]⟩

/-- Nothing is passed on by it. -/
def idle : Forwarder := Scripted.forwarder (.failAtOnce .noText)

/-- The not-found page gets the header, under its lowercase name. -/
theorem labelled_page_carries :
    (∀ r, labelled.response? idle none Deliver.usualIncoming .empty none = some r →
      Fields.IsListed r.headers) ∧
    (labelled.answer idle none Deliver.usualIncoming .empty (.fresh none none)).2.client.head? =
      some (404, [("content-type", .text "text/html"), ("x-a", .text "1")]) ∧
    Headers.Carries [("content-type", .text "text/html")]
      [("content-type", .text "text/html"), ("x-a", .text "1")] ("X-A", "1") := by
  have hresponse : labelled.response? idle none Deliver.usualIncoming .empty none =
      some ⟨404, [("content-type", .text "text/html")], .text (NotFound.page [] "/x")⟩ := rfl
  have hobject : ∀ r, labelled.response? idle none Deliver.usualIncoming .empty none = some r →
      Fields.IsListed r.headers := by
    intro r hr
    obtain rfl := Option.some.inj (hresponse.symm.trans hr)
    exact List.pairwise_singleton _ _
  have hname : lowercase "X-A" = "x-a" := by decide
  have hhead : (labelled.answer idle none Deliver.usualIncoming .empty
      (.fresh none none)).2.client.head? =
        some (404, [("content-type", .text "text/html"), ("x-a", .text "1")]) := by
    have hfilled : Headers.fill labelled.headers [("content-type", .text "text/html")] =
        [("content-type", .text "text/html"), ("x-a", .text "1")] := by decide
    rw [answer, handler_eq_addHeaders, Deliver.answer_head?_of_responseOf
      ((Middleware.responseOf_addHeaders _ _ _ _ _).trans (congrArg _ hresponse)),
      Middleware.fillHeaders_headers, Middleware.fillHeaders_status, hfilled]
  have hiff := (configured_headers_iff labelled idle none Deliver.usualIncoming .empty hobject).1
    none none _ hhead ("X-A", "1") (List.mem_singleton_self _)
  rw [hresponse] at hiff
  refine ⟨hobject, hhead, hiff.mpr (.inr ⟨?_, ?_⟩)⟩
  · rw [hname]
    decide
  · simp [labelled, Fields.lastFor]

/-- The refusal of a host that makes no URL has none of the configured headers. -/
theorem labelled_refusal_does_not_carry :
    ¬ ∀ (s : Server) (forward : Forwarder) (fallback : Option Handler) (i : Incoming)
        (inbound : Stream) (head : Number × Headers),
      (s.answer forward fallback i inbound (.fresh none none)).2.client.head? = some head →
        ∀ field ∈ s.headers,
          Headers.Carries ((s.response? forward fallback i inbound none).elim [] Response.headers)
            head.2 field := by
  intro h
  have hrequest : (⟨some "/x", some "GET", [("host", .text "a b")]⟩ : Incoming).request? = none := rfl
  obtain ⟨header, hm, hname, -⟩ := h labelled idle none
    ⟨some "/x", some "GET", [("host", .text "a b")]⟩ .empty (400, Deliver.plainText)
    (by rw [answer, Deliver.answer_refused _ _ hrequest]; rfl) ("X-A", "1") (List.mem_singleton_self _)
  obtain rfl := List.mem_singleton.mp hm
  revert hname
  decide

end Server

end Gateway
