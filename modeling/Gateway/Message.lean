import Gateway.Header
import Gateway.Thrown
import Gateway.Url.Parser

/- Requests, responses and the streams that carry their bodies. -/
namespace Gateway

/-- What a stream does after its last chunk. -/
inductive Ending
  | complete
  | failed (reason : String)
  /-- Nothing more ever comes. -/
  | silent
deriving Repr, DecidableEq

/-- A stream of text: what is still to come. -/
structure Stream where
  chunks : List String
  ending : Ending
deriving Repr, DecidableEq

namespace Stream

def empty : Stream := ⟨[], .complete⟩

/-- All chunks as one text. -/
def text (s : Stream) : String := String.join s.chunks

/-- The stream after all its chunks have been taken. -/
def drained (s : Stream) : Stream := ⟨[], s.ending⟩

/-- What became of a stream that a reader was given. -/
structure Fate where
  ended : Bool
  destroyed : Bool
deriving Repr, DecidableEq

/-- The fate of a stream that is read to its end. -/
def fate (s : Stream) : Fate :=
  match s.ending with
  | .complete => ⟨true, false⟩
  | .failed _ => ⟨false, true⟩
  | .silent => ⟨false, false⟩

end Stream

/-- A request on its way through the handlers. Its body is not part of it: a body is
    read once, and the exchange holds what is left of it. -/
structure Request where
  method : String
  url : Url
  headers : Headers
  /-- What handlers attach to a request. -/
  context : Json
deriving Repr

/-- A copy of a request for another URL. -/
def Request.withUrl (r : Request) (url : Url) : Request := { r with url }

inductive Body
  | none
  | text (text : String)
  /-- The bytes of a text. -/
  | bytes (text : String)
  | stream (stream : Stream)
deriving Repr, DecidableEq

/-- The stream of a body that is one. -/
def Body.stream? : Body → Option Stream
  | .stream s => some s
  | _ => Option.none

structure Response where
  status : Number
  headers : Headers
  body : Body
deriving Repr, DecidableEq

/-- A request as it comes from a connection. -/
structure Incoming where
  target : Option String
  method : Option String
  headers : Headers
deriving Repr

namespace Incoming

/-- The origin that a target is relative to, from the header `host`. -/
def origin (i : Incoming) : String := "http://" ++ (i.headers.given? "host").getD "localhost"

/-- The URL of a request. A target that begins with a slash is appended to the origin
    as it stands, so that its slashes are kept. -/
def url? (i : Incoming) : Option Url :=
  let target := i.target.getD "/"
  if target.toList.head? = some '/' then Url.ofText? (i.origin ++ target)
  else (Url.ofText? i.origin).bind fun base => Url.parse? target (some base)

/-- The request, if its target and host make a URL. -/
def request? (i : Incoming) : Option Request :=
  i.url?.map fun url => ⟨i.method.getD "GET", url, i.headers, .object []⟩

/-- The method as log entries show it. -/
def methodText (i : Incoming) : String := i.method.getD "undefined"

/-- The target as log entries show it. -/
def targetText (i : Incoming) : String := i.target.getD "undefined"

end Incoming

end Gateway
