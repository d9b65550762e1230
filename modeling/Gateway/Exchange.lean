import Gateway.Log
import Gateway.Message
import Gateway.Run

/- One request on its way through the server, and the handlers that it meets. -/
namespace Gateway

/-- A request to a backend, as the network is asked to make it. -/
structure Dispatch where
  /-- Whether the connection is encrypted. -/
  secure : Bool
  hostname : String
  port : Option String
  path : String
  method : String
  headers : Headers
  /-- The text that was passed on as the body, once the client had sent all of it. -/
  passed : Option String
  /-- The bytes that the backend has read as the body, once that is complete for it. -/
  received : Option (List UInt8)
deriving Repr, DecidableEq

/-- What can be observed while a request is handled. -/
inductive Event
  | logged (entry : LogEntry)
  /-- A forwarder was asked for a base URL, and it was given a request unless it
      failed before. -/
  | forwarded (base : Url) (request : Option Request)
  | dispatched (dispatch : Dispatch)
  /-- A handler at the end of the chain was given the request. -/
  | handled (request : Request)
  | noted (text : String)
deriving Repr

/-- The state of an exchange: what has happened, and what is left of the body of the
    request. -/
structure Exchange where
  journal : List Event
  inbound : Stream
deriving Repr

/-- The start of an exchange with this body. -/
def Exchange.begin (inbound : Stream) : Exchange := ⟨[], inbound⟩

/-- The log entries of an exchange. -/
def Exchange.log (x : Exchange) : Log :=
  x.journal.filterMap fun
    | .logged entry => some entry
    | _ => none

/-- A step of an exchange. -/
abbrev Effect (α : Type) := Run Exchange Thrown α

namespace Effect

def record (event : Event) : Effect Unit :=
  Run.modify fun x => { x with journal := x.journal ++ [event] }

def report (entry : LogEntry) : Effect Unit := record (.logged entry)

/-- Reads the rest of the inbound body: its text, or its failure. -/
def readBody : Effect String := fun x =>
  let rest := { x with inbound := x.inbound.drained }
  match x.inbound.ending with
  | .complete => (.done x.inbound.text, rest)
  | .failed reason => (.failed (.failure reason none), rest)
  | .silent => (.pending, rest)

end Effect

/-- The text of a failure for a report. To show a value that has none fails in turn. -/
def Thrown.shown {σ : Type} (e : Thrown) : Run σ Thrown String := Run.orFail .noText e.message?

theorem Thrown.shown_of_some {σ : Type} {e : Thrown} {reason : String}
    (h : e.message? = some reason) (s : σ) : e.shown s = (.done reason, s) := by
  rw [shown, h]
  rfl

theorem Thrown.shown_of_none {σ : Type} {e : Thrown} (h : e.message? = none) (s : σ) :
    e.shown s = (.failed .noText, s) := by
  rw [shown, h]
  rfl

/-- Answers requests. -/
abbrev Handler := Request → Effect Response

/-- Performs the network call for a proxied request: given the base URL of the target
    it yields what sends the request. -/
abbrev Forwarder := Url → Effect (Request → Effect Response)

end Gateway
