import Gateway.Rule
import Gateway.Transfer

/- Middlewares wrap a handler. The two of the server are here: one adds headers to
   responses, and one passes requests on to the targets of the rules. -/
namespace Gateway

/-- Wraps a handler; `m` is what building the wrapper may do. -/
abbrev Middleware (m : Type → Type) := Handler → m Handler

namespace Middleware

/-- Wraps a handler in all middlewares; the first one is outermost and is built last. -/
def compose {m : Type → Type} [Monad m] (middlewares : List (Middleware m)) (handler : Handler) :
    m Handler :=
  middlewares.foldrM (fun middleware next => middleware next) handler

/-- Adds the configured headers to a response that does not have them. -/
def fillHeaders (extra : Fields String) (r : Response) : Response :=
  if extra.isEmpty then r else { r with headers := r.headers.fill extra }

/-- Adds headers to every response. -/
def addHeaders (extra : Fields String) (next : Handler) : Handler := fun request =>
  fillHeaders extra <$> next request

/-- The base URL of a rule and the URL that a request is passed on to: the rewritten
    path under the base, with the query of the request unless it brings its own. -/
def outbound? (rule : Rule) (path : String) (request : Request) : Option (Url × Url) := do
  let base ← Url.ofText? rule.target
  let resolved ← Url.parse? (rule.rewritten path) (some base)
  return (base, if resolved.search = "" then resolved.withSearch request.url.search else resolved)

/-- The warning about a request for a switch to websocket. -/
def noWebsocket (path : String) : LogEntry :=
  .warn ("WebSockets are not supported by the proxy: " ++ path)

/-- The error line about a request that could not be passed on. -/
def proxyFailed (target reason : String) : LogEntry :=
  .error ("Proxy error for " ++ target ++ ": " ++ reason ++ ". Allowing fall-through.")

/-- Reports that a request could not be passed on, and gives it to `next`. -/
def fallThrough (target : String) (next : Handler) (request : Request) (e : Thrown) :
    Effect Response := do
  let reason ← e.shown
  Effect.report (proxyFailed target reason)
  next request

/-- Passes a request on to the target of a rule, and to `next` if that fails. -/
def forwardBy (rule : Rule) (path : String) (forward : Forwarder) (next : Handler) : Handler :=
  fun request =>
    match outbound? rule path request with
    | none => fallThrough rule.target next request .invalidUrl
    | some (base, url) =>
      Run.rescue (do (← forward base) (request.withUrl url)) (fallThrough url.href next request)

/-- Passes requests on by the first rule for their path. All others go to `next`, and
    so do requests for websocket, with a warning. -/
def proxy (rules : RuleSet) (forward : Forwarder) (next : Handler) : Handler := fun request =>
  let path := RequestPath.normalize request.url.pathname
  match rules.resolve path with
  | none => next request
  | some rule =>
    match request.headers.wantsWebsocket with
    | .error e => Run.fail e
    | .ok true => do
      Effect.report (noWebsocket path)
      next request
    | .ok false => forwardBy rule path forward next request

end Middleware

end Gateway
