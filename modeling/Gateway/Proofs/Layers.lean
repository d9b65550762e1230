import Gateway.Middleware
import Gateway.Scripted

/- Middlewares as layers. A layer decides about a request before the next handler knows of it: it
   fails, it answers, or it passes a request on, and then it also has a say in what comes back. So
   it calls the next handler once at most (`through_callsOnce`). The two middlewares of the server
   are layers (`addHeaders_eq_through`, `proxy_eq_through`), and so are scripted stages. Whether
   a handler calls another is seen by notes in the journal, which quiet ones leave alone. -/
namespace Gateway

namespace Run
variable {σ ε α : Type}

def ofExcept : Except ε α → Run σ ε α
  | .ok a => pure a
  | .error e => fail e

/-- What becomes of `x`, as a value. -/
def observe (x : Run σ ε α) : Run σ ε (Outcome ε α) := fun s => (.done (x s).1, (x s).2)

theorem attempt_ofExcept (x : Run σ ε α) : attempt x >>= ofExcept = x := by
  funext s
  cases hrun : x s with
  | mk outcome t =>
    cases outcome with
    | done a => exact bind_of_done ofExcept (attempt_of_done hrun)
    | failed e => exact bind_of_done ofExcept (attempt_of_failed hrun)
    | pending => exact bind_of_pending ofExcept (attempt_of_pending hrun)

end Run

/-! ## Notes -/

/-- The notes in the journal of an exchange. -/
def Exchange.notes (x : Exchange) : List String :=
  x.journal.filterMap fun
    | .noted text => some text
    | _ => none

/-- The exchange with one more note. -/
def Exchange.note (text : String) (x : Exchange) : Exchange :=
  { x with journal := x.journal ++ [.noted text] }

@[simp] theorem Exchange.notes_note (text : String) (x : Exchange) :
    (x.note text).notes = x.notes ++ [text] := by
  simp [note, notes]

namespace Effect

variable {α β : Type}

def note (text : String) : Effect Unit := record (.noted text)

theorem note_bind (text : String) (f : Unit → Effect α) (x : Exchange) :
    (note text >>= f) x = f () (x.note text) := rfl

/-- Notes nothing, whatever else it does. -/
def Quiet (e : Effect α) : Prop := ∀ x, (e x).2.notes = x.notes

/-- Ends with a value or with a failure. -/
def Settles (e : Effect α) : Prop := ∀ x, (e x).1 ≠ .pending

theorem Quiet.bind {e : Effect α} {f : α → Effect β} (he : Quiet e)
    (hf : ∀ x a y, e x = (.done a, y) → Quiet (f a)) : Quiet (e >>= f) := by
  intro x
  have hx := he x
  cases hrun : e x with
  | mk outcome y =>
    rw [hrun] at hx
    cases outcome with
    | done a => rw [Run.bind_of_done f hrun, hf x a y hrun y, hx]
    | failed error => rw [Run.bind_of_failed f hrun, hx]
    | pending => rw [Run.bind_of_pending f hrun, hx]

theorem Quiet.map {e : Effect α} (he : Quiet e) (f : α → β) : Quiet (f <$> e) := by
  rw [map_eq_pure_bind]
  exact he.bind fun _ _ _ _ _ => rfl

theorem Quiet.rescue {e : Effect α} {f : Thrown → Effect α} (he : Quiet e)
    (hf : ∀ error, Quiet (f error)) : Quiet (Run.rescue e f) := by
  intro x
  have hx := he x
  cases hrun : e x with
  | mk outcome y =>
    rw [hrun] at hx
    cases outcome with
    | done a => rw [Run.rescue_of_done f hrun, hx]
    | failed error => rw [Run.rescue_of_failed f hrun, hf error y, hx]
    | pending => rw [Run.rescue_of_pending f hrun, hx]

theorem Settles.attempt_bind {e : Effect α} {f : Except Thrown α → Effect β} (he : Settles e)
    (hf : ∀ outcome, Settles (f outcome)) : Settles (Run.attempt e >>= f) := by
  intro x
  have hx := he x
  cases hrun : e x with
  | mk outcome y =>
    rw [hrun] at hx
    cases outcome with
    | done a =>
      rw [Run.bind_of_done f (Run.attempt_of_done hrun)]
      exact hf (.ok a) y
    | failed error =>
      rw [Run.bind_of_done f (Run.attempt_of_failed hrun)]
      exact hf (.error error) y
    | pending => exact absurd rfl hx

theorem report_quiet (entry : LogEntry) : Quiet (report entry) := by
  intro x
  simp [report, record, Run.modify, Exchange.notes]

theorem shown_quiet (e : Thrown) : Quiet e.shown := by
  intro x
  cases h : e.message? with
  | none => rw [Thrown.shown_of_none h]
  | some reason => rw [Thrown.shown_of_some h]

theorem ofExcept_quiet (outcome : Except Thrown α) : Quiet (Run.ofExcept outcome) := by
  intro x
  cases outcome <;> rfl

end Effect

open Effect (note Quiet Settles)

/-! ## Handlers -/

namespace Handler

def Quiet (handler : Handler) : Prop := ∀ request, Effect.Quiet (handler request)

def Settles (handler : Handler) : Prop := ∀ request, Effect.Settles (handler request)

end Handler

/-! ## Layers -/

/-- What a run notes is noted by `next`, which it calls once at most, and waits for. -/
def CallsOnce (next : Handler) (x : Exchange) (result : Outcome Thrown Response × Exchange) :
    Prop :=
  result.2.notes = x.notes ∨
    ∃ passed z, z.notes = x.notes ∧ result.2.notes = (next passed z).2.notes ∧
      ((next passed z).1 = .pending → result.1 = .pending)

/-- What a layer has decided about a request. -/
inductive Turn
  /-- The layer answers, and nothing inside of it gets to know of the request. -/
  | answer (response : Response)
  /-- A request goes on to the next handler; `back` makes an answer, or a failure, of what becomes
      of it there. -/
  | goOn (request : Request) (back : Except Thrown Response → Effect Response)

namespace Turn

/-- Passes a request on, and takes what becomes of it as it is. -/
def pass (request : Request) : Turn := .goOn request Run.ofExcept

def follow (next : Handler) : Turn → Effect Response
  | .answer response => pure response
  | .goOn passed back => do
    let outcome ← Run.attempt (next passed)
    back outcome

/-- Notes nothing of its own. -/
def IsQuiet : Turn → Prop
  | .answer _ => True
  | .goOn _ back => ∀ outcome, Quiet (back outcome)

theorem pass_isQuiet (request : Request) : (pass request).IsQuiet := Effect.ofExcept_quiet

theorem follow_pass (next : Handler) (request : Request) :
    (pass request).follow next = next request := Run.attempt_ofExcept (next request)

end Turn

/-- Notes nothing, and decides for quiet turns only. -/
structure DecidesQuietly (e : Effect Turn) : Prop where
  deciding : Quiet e
  decided : ∀ x turn y, e x = (.done turn, y) → turn.IsQuiet

namespace DecidesQuietly

theorem pure {turn : Turn} (h : turn.IsQuiet) : DecidesQuietly (Pure.pure turn) where
  deciding _ := rfl
  decided x other y hrun := by
    have hturn : turn = other := by
      injection congrArg Prod.fst hrun
    exact hturn ▸ h

theorem bind {α : Type} {e : Effect α} {f : α → Effect Turn} (he : Quiet e)
    (hf : ∀ a, DecidesQuietly (f a)) : DecidesQuietly (e >>= f) where
  deciding := he.bind fun _ a _ _ => (hf a).deciding
  decided x turn y hrun := by
    obtain ⟨a, z, -, hturn⟩ := Run.bind_eq_done hrun
    exact (hf a).decided z turn y hturn

theorem rescue {e : Effect Turn} {f : Thrown → Effect Turn} (he : DecidesQuietly e)
    (hf : ∀ error, DecidesQuietly (f error)) : DecidesQuietly (Run.rescue e f) where
  deciding := he.deciding.rescue fun error => (hf error).deciding
  decided x turn y hrun := by
    cases he' : e x with
    | mk outcome z =>
      cases outcome with
      | done found =>
        rw [Run.rescue_of_done f he'] at hrun
        exact he.decided x turn y (he'.trans hrun)
      | failed error =>
        rw [Run.rescue_of_failed f he'] at hrun
        exact (hf error).decided z turn y hrun
      | pending =>
        rw [Run.rescue_of_pending f he'] at hrun
        cases hrun

end DecidesQuietly

/-- Decides about a request, or fails. -/
abbrev Layer := Request → Effect Turn

namespace Layer

def through (layer : Layer) (next : Handler) : Handler := fun request => do
  let turn ← layer request
  turn.follow next

def IsQuiet (layer : Layer) : Prop := ∀ request, DecidesQuietly (layer request)

section
variable {layer : Layer} {request : Request} {x z : Exchange} (next : Handler)

theorem through_of_failed {e : Thrown} (h : layer request x = (.failed e, z)) :
    layer.through next request x = (.failed e, z) := Run.bind_of_failed _ h

theorem through_of_pending (h : layer request x = (.pending, z)) :
    layer.through next request x = (.pending, z) := Run.bind_of_pending _ h

theorem through_of_answer {response : Response}
    (h : layer request x = (.done (.answer response), z)) :
    layer.through next request x = (.done response, z) := Run.bind_of_done _ h

theorem through_of_goOn {passed : Request} {back : Except Thrown Response → Effect Response}
    (h : layer request x = (.done (.goOn passed back), z)) :
    layer.through next request x = (Run.attempt (next passed) >>= back) z := Run.bind_of_done _ h

end

theorem through_callsOnce {layer : Layer} (h : layer.IsQuiet) (next : Handler) (request : Request)
    (x : Exchange) : CallsOnce next x (layer.through next request x) := by
  have hquiet := (h request).deciding x
  cases hrun : layer request x with
  | mk outcome z =>
    rw [hrun] at hquiet
    cases outcome with
    | failed e =>
      rw [through_of_failed next hrun]
      exact .inl hquiet
    | pending =>
      rw [through_of_pending next hrun]
      exact .inl hquiet
    | done turn =>
      cases turn with
      | answer response =>
        rw [through_of_answer next hrun]
        exact .inl hquiet
      | goOn passed back =>
        have hback : (Turn.goOn passed back).IsQuiet := (h request).decided x _ z hrun
        rw [through_of_goOn next hrun]
        refine .inr ⟨passed, z, hquiet, ?_⟩
        cases hnext : next passed z with
        | mk outcome y =>
          cases outcome with
          | done response =>
            rw [Run.bind_of_done back (Run.attempt_of_done hnext)]
            exact ⟨hback _ y, fun hpending => by cases hpending⟩
          | failed e =>
            rw [Run.bind_of_done back (Run.attempt_of_failed hnext)]
            exact ⟨hback _ y, fun hpending => by cases hpending⟩
          | pending =>
            rw [Run.bind_of_pending back (Run.attempt_of_pending hnext)]
            exact ⟨rfl, fun _ => rfl⟩

theorem through_quiet {layer : Layer} (h : layer.IsQuiet) {next : Handler} (hnext : next.Quiet) :
    (layer.through next).Quiet := by
  intro request x
  rcases through_callsOnce h next request x with hnotes | ⟨passed, z, hz, hnotes, -⟩
  · exact hnotes
  · rw [hnotes, hnext passed z, hz]

end Layer

/-! ## The middlewares of the server -/

namespace Middleware

/-- Passes every request on, and adds the headers on the way back. -/
def headersLayer (extra : Fields String) : Layer := fun request =>
  pure (.goOn request fun outcome => fillHeaders extra <$> Run.ofExcept outcome)

theorem addHeaders_eq_through (extra : Fields String) (next : Handler) :
    addHeaders extra next = (headersLayer extra).through next := by
  funext request
  calc addHeaders extra next request
      = fillHeaders extra <$> (Run.attempt (next request) >>= Run.ofExcept) := by
        rw [Run.attempt_ofExcept, addHeaders]
    _ = Run.attempt (next request) >>= fun outcome => fillHeaders extra <$> Run.ofExcept outcome :=
        map_bind ..
    _ = (headersLayer extra).through next request := by
        rw [Layer.through, headersLayer, pure_bind, Turn.follow]

/-- Reports that a request could not be passed on to a target, and passes it on to the next. -/
def giveUp (target : String) (request : Request) (e : Thrown) : Effect Turn := do
  let reason ← e.shown
  Effect.report (proxyFailed target reason)
  pure (.pass request)

theorem giveUp_follow (target : String) (next : Handler) (request : Request) (e : Thrown) :
    giveUp target request e >>= Turn.follow next = fallThrough target next request e := by
  simp only [giveUp, fallThrough, bind_assoc, pure_bind, Turn.follow_pass]

/-- The answer of the target is the answer; without one, the layer gives up. -/
def forwardLayer (rule : Rule) (path : String) (forward : Forwarder) : Layer := fun request =>
  match outbound? rule path request with
  | none => giveUp rule.target request .invalidUrl
  | some (base, url) =>
    Run.rescue (Turn.answer <$> do (← forward base) (request.withUrl url)) (giveUp url.href request)

theorem rescue_follow (e : Effect Response) (other : Thrown → Effect Turn) (next : Handler) :
    Run.rescue (Turn.answer <$> e) other >>= Turn.follow next =
      Run.rescue e fun error => other error >>= Turn.follow next := by
  funext x
  cases hrun : e x with
  | mk outcome y =>
    cases outcome with
    | done response =>
      have hanswer : (Turn.answer <$> e) x = (.done (.answer response), y) :=
        Run.bind_of_done _ hrun
      rw [Run.bind_of_done _ (Run.rescue_of_done other hanswer), Run.rescue_of_done _ hrun]
      rfl
    | failed error =>
      have hfailed : (Turn.answer <$> e) x = (.failed error, y) := Run.bind_of_failed _ hrun
      have hother : Run.rescue (Turn.answer <$> e) other x = other error y :=
        Run.rescue_of_failed other hfailed
      rw [Run.rescue_of_failed _ hrun]
      show Run.bind _ _ x = Run.bind _ _ y
      simp only [Run.bind, hother]
    | pending =>
      have hpending : (Turn.answer <$> e) x = (.pending, y) := Run.bind_of_pending _ hrun
      rw [Run.bind_of_pending _ (Run.rescue_of_pending other hpending),
        Run.rescue_of_pending _ hrun]

theorem forwardBy_eq_through (rule : Rule) (path : String) (forward : Forwarder) (next : Handler) :
    forwardBy rule path forward next = (forwardLayer rule path forward).through next := by
  funext request
  rw [forwardBy, Layer.through, forwardLayer]
  cases outbound? rule path request with
  | none => exact (giveUp_follow rule.target next request .invalidUrl).symm
  | some target =>
    obtain ⟨base, url⟩ := target
    have hfollow := rescue_follow (do (← forward base) (request.withUrl url))
      (giveUp url.href request) next
    simp only [giveUp_follow] at hfollow
    exact hfollow.symm

/-- Decides by the rules whether a request is passed on to a target or to the next. -/
def proxyLayer (rules : RuleSet) (forward : Forwarder) : Layer := fun request =>
  let path := RequestPath.normalize request.url.pathname
  match rules.resolve path with
  | none => pure (.pass request)
  | some rule =>
    match request.headers.wantsWebsocket with
    | .error e => Run.fail e
    | .ok true => do
      Effect.report (noWebsocket path)
      pure (.pass request)
    | .ok false => forwardLayer rule path forward request

theorem proxy_eq_through (rules : RuleSet) (forward : Forwarder) (next : Handler) :
    proxy rules forward next = (proxyLayer rules forward).through next := by
  funext request
  have hpass : pure (Turn.pass request) >>= Turn.follow next = next request := by
    rw [pure_bind, Turn.follow_pass]
  simp only [proxy, Layer.through, proxyLayer]
  cases rules.resolve (RequestPath.normalize request.url.pathname) with
  | none => exact hpass.symm
  | some rule =>
    cases request.headers.wantsWebsocket with
    | error e => rfl
    | ok switches =>
      cases switches with
      | true => simp only [bind_assoc, hpass]
      | false => exact congrFun (forwardBy_eq_through rule _ forward next) request

end Middleware

/-- Notes nothing, neither when it is asked for a target nor when it sends a request there. -/
structure Forwarder.IsQuiet (forward : Forwarder) : Prop where
  asking : ∀ base, Quiet (forward base)
  sending : ∀ base x send y, forward base x = (.done send, y) → ∀ request, Quiet (send request)

/-- The forwarder of the server notes nothing. -/
theorem Forwarder.overNetwork_isQuiet (network : Network) : (overNetwork network).IsQuiet where
  asking _ _ := rfl
  sending base x sending y h request := by
    obtain rfl : send network base = sending := by
      injection congrArg Prod.fst h
    intro z
    rw [send]
    split
    · simp [transfer, Exchange.notes]
    · rfl

namespace Middleware

theorem headersLayer_isQuiet (extra : Fields String) : (headersLayer extra).IsQuiet := fun _ =>
  .pure fun outcome => (Effect.ofExcept_quiet outcome).map (fillHeaders extra)

theorem giveUp_decidesQuietly (target : String) (request : Request) (e : Thrown) :
    DecidesQuietly (giveUp target request e) := by
  apply DecidesQuietly.bind (Effect.shown_quiet e)
  intro reason
  exact .bind (Effect.report_quiet _) fun _ => .pure (Turn.pass_isQuiet request)

theorem forwardLayer_isQuiet (rule : Rule) (path : String) {forward : Forwarder}
    (h : forward.IsQuiet) : (forwardLayer rule path forward).IsQuiet := by
  intro request
  rw [forwardLayer]
  cases outbound? rule path request with
  | none => exact giveUp_decidesQuietly _ request _
  | some target =>
    have hsend : Quiet (do (← forward target.1) (request.withUrl target.2)) :=
      (h.asking target.1).bind fun x send y hask => h.sending target.1 x send y hask _
    have hanswer : DecidesQuietly
        (Turn.answer <$> do (← forward target.1) (request.withUrl target.2)) := by
      rw [map_eq_pure_bind]
      exact .bind hsend fun _ => .pure trivial
    exact hanswer.rescue fun error => giveUp_decidesQuietly _ request error

theorem proxyLayer_isQuiet (rules : RuleSet) {forward : Forwarder} (h : forward.IsQuiet) :
    (proxyLayer rules forward).IsQuiet := by
  intro request
  rw [proxyLayer]
  cases rules.resolve (RequestPath.normalize request.url.pathname) with
  | none => exact .pure (Turn.pass_isQuiet request)
  | some rule =>
    cases request.headers.wantsWebsocket with
    | error e => exact ⟨fun _ => rfl, fun _ _ _ hfailed => by cases hfailed⟩
    | ok switches =>
      cases switches with
      | true => exact .bind (Effect.report_quiet _) fun _ => .pure (Turn.pass_isQuiet request)
      | false => exact forwardLayer_isQuiet rule _ h request

end Middleware

/-! ## Scripted stages -/

namespace Scripted

/-- What a scripted stage does, without its notes. -/
def Stage.layer (stage : Stage) : Layer := fun request =>
  match stage.fails, stage.responds with
  | some error, _ => Run.fail error
  | none, some response => pure (.answer response)
  | none, none => pure (.goOn request fun outcome =>
    match outcome, stage.rescues with
    | .error _, some response => pure response
    | outcome, _ => Run.ofExcept outcome)

theorem Stage.layer_isQuiet (stage : Stage) : stage.layer.IsQuiet := by
  intro request
  obtain ⟨name, fails, responds, rescues⟩ := stage
  rw [Stage.layer]
  cases fails with
  | some error => exact ⟨fun _ => rfl, fun _ _ _ hfailed => by cases hfailed⟩
  | none =>
    cases responds with
    | some response => exact .pure trivial
    | none =>
      refine .pure ?_
      intro outcome
      cases outcome with
      | ok response => exact fun _ => rfl
      | error error => cases rescues <;> exact fun _ => rfl

theorem Stage.layer_settles (stage : Stage) {next : Handler} (h : next.Settles) :
    (stage.layer.through next).Settles := by
  intro request
  obtain ⟨name, fails, responds, rescues⟩ := stage
  cases fails with
  | some error => exact fun _ hpending => by cases hpending
  | none =>
    cases responds with
    | some response => exact fun _ hpending => by cases hpending
    | none =>
      apply Effect.Settles.attempt_bind (h request)
      intro outcome
      cases outcome with
      | ok response => exact fun _ hpending => by cases hpending
      | error error => cases rescues <;> exact fun _ hpending => by cases hpending

end Scripted

end Gateway
