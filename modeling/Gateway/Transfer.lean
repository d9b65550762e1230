import Gateway.Framing

/- The forwarding of a request over the network. The body of the client is passed on
   chunk by chunk while the backend may answer or fail at any moment; what happens
   first settles the matter. What the backend reads as the body depends on how the request
   is framed. -/
namespace Gateway

/-- What happens to an outgoing request. -/
inductive TransferEvent
  /-- The client has sent a part of the body. -/
  | chunk (text : String)
  /-- The client has sent all of the body. -/
  | bodyEnded
  /-- The body of the client has failed. -/
  | bodyFailed (reason : String)
  /-- The backend has answered; the body of the answer follows. -/
  | answered (status : Option Number) (headers : Headers) (body : Stream)
  /-- The outgoing request has failed. -/
  | requestFailed (error : Thrown)
deriving Repr

/-- The state of an outgoing request. -/
structure Transfer where
  /-- The request as it is sent. -/
  request : Dispatch
  /-- What has been passed on to the backend. -/
  sent : List String
  /-- What came after the outgoing request was given up. It stays with the client's body. -/
  left : List String
  /-- Whether all of the body has been passed on. -/
  complete : Bool
  /-- Whether the outgoing request is given up. -/
  broken : Bool
  /-- How the matter was settled. -/
  outcome : Option (Except Thrown Response)
deriving Repr

namespace Transfer

def start (d : Dispatch) : Transfer := ⟨d, [], [], false, false, none⟩

/-- Settles the matter, unless it is settled. -/
def settle (t : Transfer) (outcome : Except Thrown Response) : Transfer :=
  { t with outcome := t.outcome.or (some outcome) }

/-- The status of an answer that gives none. -/
def badGateway : Number := 502

/-- The answer of a backend as a response. -/
def response (status : Option Number) (headers : Headers) (body : Stream) : Response :=
  ⟨status.getD badGateway, headers.endToEnd, .stream body⟩

/-- An event after the outgoing request was given up. -/
def stepBroken (t : Transfer) : TransferEvent → Transfer
  | .chunk text => { t with left := t.left ++ [text] }
  | _ => t

/-- One event of the forwarding to a host. -/
def step (host : String) (t : Transfer) (event : TransferEvent) : Transfer :=
  if t.broken then t.stepBroken event
  else
    match event with
    | .chunk text => { t with sent := t.sent ++ [text] }
    | .bodyEnded => { t with complete := true }
    | .bodyFailed reason =>
      { t.settle (.error (.backendFailed host (.failure reason none))) with broken := true }
    | .answered status headers body => t.settle (.ok (response status headers body))
    | .requestFailed error =>
      { t.settle (.error (.backendFailed host error)) with broken := true }

/-- The whole of a forwarding. -/
def run (host : String) (d : Dispatch) (events : List TransferEvent) : Transfer :=
  events.foldl (step host) (start d)

/-- The text of the body, once all of it has been passed on. -/
def passed (t : Transfer) : Option String := if t.complete then some (String.join t.sent) else none

/-- Whether the head of the request has gone out. It goes with the first part of the body or
    with its end, unless the request is announced. -/
def hasHead (t : Transfer) : Bool := t.request.isAnnounced || !t.sent.isEmpty || t.complete

/-- The bytes behind the head. -/
def bytes (t : Transfer) : List UInt8 := t.sent.flatMap Text.bytes

/-- The body that the backend has read, if that is complete for it. -/
def received (t : Transfer) : Option (List UInt8) :=
  if t.hasHead then t.request.framing.read t.bytes t.complete else none

end Transfer

/-- What a backend does. -/
inductive Reply
  | answer (status : Option Number) (headers : Headers) (body : Stream)
  | failure (error : Thrown)
deriving Repr

/-- When a backend replies. -/
inductive Moment
  /-- When this many chunks have been passed on, before their end. -/
  | after (chunks : Nat)
  /-- When the whole body has been passed on. -/
  | atEnd
deriving Repr, DecidableEq

/-- The behaviour of a backend: its reply, and when it comes. -/
structure Backend where
  reply : Reply
  moment : Moment
deriving Repr

namespace Backend

def replyEvent : Reply → TransferEvent
  | .answer status headers body => .answered status headers body
  | .failure error => .requestFailed error

def chunkEvents (chunks : List String) : List TransferEvent := chunks.map .chunk

/-- What the end of the client's body brings about. -/
def endEvents : Ending → List TransferEvent
  | .complete => [.bodyEnded]
  | .failed reason => [.bodyFailed reason]
  | .silent => []

/-- The order of events between a client that sends this body and the backend. -/
def events (b : Backend) (body : Stream) : List TransferEvent :=
  match b.moment with
  | .after n =>
    chunkEvents (body.chunks.take n) ++
      replyEvent b.reply :: (chunkEvents (body.chunks.drop n) ++ endEvents body.ending)
  | .atEnd =>
    chunkEvents body.chunks ++ endEvents body.ending ++
      match body.ending with
      | .complete => [replyEvent b.reply]
      | _ => []

end Backend

/-- A network: how the backend behind a base URL takes a request. -/
abbrev Network := Dispatch → Backend

namespace Forwarder

/-- How this server names itself in the header `via`. -/
def via : String := "1.1 devroute"

/-- The headers that a backend is sent: its own host, and the way the request came. -/
def backendHeaders (headers : Headers) (base : Url) : Headers :=
  let own := match headers.given? "via" with
    | some before => before ++ ", " ++ via
    | none => via
  Fields.set "via" (.text own) (Fields.set "host" (.text base.authority) headers.endToEnd)

/-- A host without the brackets of an IPv6 address. -/
def bareHost (host : String) : String :=
  let s := match host.toList with
    | '[' :: rest => rest
    | s => s
  String.ofList (if s.getLast? = some ']' then s.dropLast else s)

/-- The scheme that the transport for a base URL is made for. -/
def expectedProtocol (base : Url) : String := if base.scheme = "https" then "https:" else "http:"

/-- The outgoing request for a request to a base URL. -/
def dispatch (base : Url) (r : Request) : Dispatch where
  secure := base.scheme = "https"
  hostname := bareHost base.hostname
  port := if base.portText = "" then none else some base.portText
  path := r.url.pathname ++ r.url.search
  method := r.method
  headers := backendHeaders r.headers base
  passed := none
  received := none

/-- The outcome of a settled forwarding. -/
def outcomeOf : Option (Except Thrown Response) → Outcome Thrown Response
  | some (.ok response) => .done response
  | some (.error e) => .failed e
  | none => .pending

/-- Passes the request and its body on to the backend. What the backend has not been passed
    is left of the body. -/
def transfer (network : Network) (base : Url) (r : Request) : Effect Response := fun x =>
  let d := dispatch base r
  let t := Transfer.run base.authority d ((network d).events x.inbound)
  (outcomeOf t.outcome,
    ⟨x.journal ++ [.dispatched { d with passed := t.passed, received := t.received }],
      { x.inbound with chunks := t.left }⟩)

/-- Sends a request to the backend of a base URL. -/
def send (network : Network) (base : Url) (r : Request) : Effect Response :=
  if base.protocol = expectedProtocol base then transfer network base r
  else Run.fail (.unsupportedProtocol base.protocol (expectedProtocol base))

/-- The forwarder that uses a network. -/
def overNetwork (network : Network) : Forwarder := fun base => pure (send network base)

end Forwarder

end Gateway
