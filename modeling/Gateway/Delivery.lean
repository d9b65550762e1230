import Gateway.Exchange

/- Delivering responses to the client of an ordinary request. -/
namespace Gateway

/-- The client's side of a request, with what has been written to it. The first call
    that writes a head, or that ends the response, may be made to fail. -/
structure Client where
  headFault : Option String
  endFault : Option String
  heads : List (Number × Headers)
  /-- Whether a head has gone out. -/
  headSent : Bool
  /-- The parts of the body that have been written. -/
  chunks : List String
  /-- How often the response has been ended in good order. -/
  ends : Nat
  /-- Whether the connection has been torn down. -/
  destroyed : Bool
  /-- The failure it was torn down with. -/
  failure : Option String
deriving Repr, DecidableEq

/-- The state of a delivery. -/
structure Delivery where
  exchange : Exchange
  client : Client
  /-- The fate of the response's stream, if it has one. -/
  stream : Option Stream.Fate
  /-- Whether the stream is tied to the connection, so that it is given up with it. -/
  tied : Bool
deriving Repr

/-- A delivery before its first step. -/
def Delivery.begin (exchange : Exchange) (client : Client) : Delivery :=
  ⟨exchange, client, none, false⟩

namespace Client

/-- A client that has been sent nothing. -/
def fresh (headFault endFault : Option String) : Client :=
  ⟨headFault, endFault, [], false, [], 0, false, none⟩

/-- The text that has been written. -/
def written (c : Client) : String := String.join c.chunks

/-- Whether the response has been ended in good order. -/
def ended (c : Client) : Bool := c.ends != 0

end Client

/-- A step of a delivery. -/
abbrev Deliver (α : Type) := Run Delivery Thrown α

namespace Deliver

/-- A step of the exchange as a step of its delivery. -/
def ofEffect {α : Type} (x : Effect α) : Deliver α :=
  Run.onPart Delivery.exchange (fun e d => { d with exchange := e }) x

def onClient (f : Client → Client) : Deliver Unit := Run.modify fun d => { d with client := f d.client }

def report (entry : LogEntry) : Deliver Unit := ofEffect (Effect.report entry)

/-- Writes a head. -/
def writeHead (status : Number) (headers : Headers) : Deliver Unit := do
  let d ← Run.get
  onClient fun c => { c with heads := c.heads ++ [(status, headers)] }
  match d.client.headFault with
  | some message =>
    onClient fun c => { c with headFault := none }
    Run.fail (.failure message none)
  | none => onClient fun c => { c with headSent := true }

/-- Writes the last part of a body, if there is one, and ends the response. -/
def finish (last : Option String) : Deliver Unit := do
  let d ← Run.get
  match d.client.endFault with
  | some message =>
    onClient fun c => { c with endFault := none }
    Run.fail (.failure message none)
  | none => onClient fun c => { c with chunks := c.chunks ++ last.toList, ends := c.ends + 1 }

def streamFailed (reason : String) : LogEntry := .error ("Response stream failed: " ++ reason)

/-- Writes a chunk of a stream. -/
def write (chunk : String) : Deliver Unit :=
  onClient fun c => { c with chunks := c.chunks ++ [chunk] }

def writeAll : List String → Deliver Unit
  | [] => pure ()
  | chunk :: rest => do
    write chunk
    writeAll rest

/-- Passes a stream on to the client, chunk by chunk. If it fails the connection is torn
    down, so that the client does not take what it has for the whole. -/
def pipe (s : Stream) : Deliver Unit := do
  writeAll s.chunks
  Run.modify fun d => { d with stream := some s.fate }
  match s.ending with
  | .complete => onClient fun c => { c with ends := c.ends + 1 }
  | .failed reason => do
    report (streamFailed reason)
    onClient fun c => { c with destroyed := true, failure := some reason }
  | .silent => pure ()

/-- Notes the stream of a response, which has not been read yet. -/
def noteStream (body : Body) : Deliver Unit :=
  match body with
  | .stream _ => Run.modify fun d => { d with stream := some ⟨false, false⟩ }
  | _ => pure ()

/-- Sends a response to the client, up to a stream that remains to be passed on. -/
def send (r : Response) : Deliver (Option Stream) := do
  noteStream r.body
  writeHead r.status r.headers
  match r.body with
  | .none => do
    finish none
    pure none
  | .text text => do
    finish (some text)
    pure none
  | .bytes text => do
    finish (some text)
    pure none
  | .stream s => do
    Run.modify fun d => { d with tied := true }
    pure (some s)

def plainText : Headers := [("Content-Type", .text "text/plain")]

def handlerFailed (i : Incoming) (reason : String) : LogEntry :=
  .error ("Handler failed for " ++ i.methodText ++ " " ++ i.targetText ++ ": " ++ reason)

/-- Answers a request that no handler could answer. -/
def sendFailure (i : Incoming) (e : Thrown) : Deliver Unit := do
  let reason ← e.shown
  report (handlerFailed i reason)
  let d ← Run.get
  if d.client.headSent then finish (some "Internal Server Error")
  else do
    writeHead 500 plainText
    finish (some "Internal Server Error")

/-- Refuses a request whose target and host make no URL. -/
def sendRefusal : Deliver Unit := do
  writeHead 400 plainText
  finish (some "Bad Request: invalid Host header")

/-- Answers a request by a handler, up to a stream that remains to be passed on. -/
def settle (handler : Handler) (i : Incoming) (request : Request) : Deliver (Option Stream) :=
  Run.rescue (do send (← ofEffect (handler request))) fun e => do
    sendFailure i e
    pure none

/-- Answers a request by a handler. A stream is passed on when the handler is done with, so
    that a failure of the stream is not taken for one of the handler. -/
def answer (handler : Handler) (i : Incoming) : Deliver Unit :=
  match i.request? with
  | none => sendRefusal
  | some request => do
    match ← settle handler i request with
    | some s => pipe s
    | none => pure ()

end Deliver

/-- The client goes away. A response that has been ended is not touched, and any other
    is given up together with a stream that is tied to it. -/
def Delivery.disconnect (d : Delivery) : Delivery :=
  if d.client.ended || d.client.destroyed then d
  else
    { d with
      client := { d.client with destroyed := true }
      stream := d.stream.map fun fate => if d.tied && !fate.ended then ⟨false, true⟩ else fate }

end Gateway
