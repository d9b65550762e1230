import Gateway.Middleware

/- Handlers, forwarders and middlewares that do what they are told and note in the
   journal that they were called. -/
namespace Gateway.Scripted

/-- What a collaborator does with a request. -/
inductive Script
  | respond (response : Response)
  | fail (error : Thrown)
deriving Repr

def Script.play : Script → Effect Response
  | .respond response => pure response
  | .fail error => Run.fail error

/-- What a forwarder does: it plays a script for each request, or fails as soon as it is
    asked for a base URL. -/
inductive ForwardScript
  | each (script : Script)
  | failAtOnce (error : Thrown)
deriving Repr

/-- A handler that notes its requests. -/
def handler (script : Script) : Handler := fun request => do
  Effect.record (.handled request)
  script.play

/-- A forwarder that notes its calls. -/
def forwarder : ForwardScript → Forwarder
  | .each script => fun base => pure fun request => do
    Effect.record (.forwarded base (some request))
    script.play
  | .failAtOnce error => fun base => do
    Effect.record (.forwarded base none)
    Run.fail error

/-- What a noting middleware does. -/
structure Stage where
  name : String
  /-- Fails before the next handler. -/
  fails : Option Thrown
  /-- Answers before the next handler. -/
  responds : Option Response
  /-- Answers in the place of a next handler that fails. -/
  rescues : Option Response
deriving Repr

/-- Passes a request through a stage. -/
def Stage.through (s : Stage) (next : Handler) : Handler := fun request => do
  Effect.record (.noted ("enter " ++ s.name))
  match s.fails, s.responds with
  | some error, _ => Run.fail error
  | none, some response => pure response
  | none, none => do
    match ← Run.attempt (next request) with
    | .ok response => do
      Effect.record (.noted ("leave " ++ s.name ++ " " ++ response.status.toText))
      pure response
    | .error error => do
      Effect.record (.noted ("failed " ++ s.name))
      match s.rescues with
      | some response => pure response
      | none => Run.fail error

/-- The stage as a middleware, which notes that it is built. -/
def Stage.middleware (s : Stage) : Middleware Effect := fun next => do
  Effect.record (.noted ("build " ++ s.name))
  pure (s.through next)

end Gateway.Scripted
