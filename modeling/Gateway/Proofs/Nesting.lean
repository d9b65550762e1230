import Gateway.Proofs.Dispatch
import Gateway.Proofs.Layers
import Gateway.Server

/- How middlewares nest. A composition is built from its last middleware to its first
   (`compose_append`), and what each of them keeps the composition keeps (`compose_keeps`). To see
   more, the middlewares get names and note what happens to them. Each is given its next once, and
   not again when requests are served (`compose_told`). A middleware that passes a request on once
   at most is a layer, as the two of the server are. A request enters the layers from the first on
   and leaves them in the reverse order, also where one of them fails or answers by itself
   (`compose_watched`, `Server.requests_nest`). -/
namespace Gateway

open Effect (note Quiet)

namespace Handler

/-- Notes a text for each request. -/
def noting (text : String) (handler : Handler) : Handler := fun request => do
  note text
  handler request

/-- Serves requests with their bodies one after another; yields what becomes of each. -/
def serve (handler : Handler) (requests : List (Request × Stream)) :
    Effect (List (Outcome Thrown Response)) :=
  requests.mapM fun (request, body) => do
    Run.modify fun x => { x with inbound := body }
    Run.observe (handler request)

theorem serve_quiet {handler : Handler} (h : handler.Quiet) (requests : List (Request × Stream)) :
    Effect.Quiet (handler.serve requests) := by
  induction requests with
  | nil => exact fun _ => rfl
  | cons first rest ih =>
    rw [serve, List.mapM_cons]
    have hfirst : Effect.Quiet (do
        Run.modify fun x => { x with inbound := first.2 }
        Run.observe (handler first.1)) := fun x => h first.1 _
    exact hfirst.bind fun _ _ _ _ => ih.bind fun _ _ _ _ _ => rfl

end Handler

namespace Middleware

/-! ## Compositions -/

section
variable {m : Type → Type} [Monad m] [LawfulMonad m] (handler : Handler)

theorem compose_cons (middleware : Middleware m) (rest : List (Middleware m)) :
    compose (middleware :: rest) handler = compose rest handler >>= middleware :=
  List.foldrM_cons

/-- The inner middlewares are built first. -/
theorem compose_append (outer inner : List (Middleware m)) :
    compose (outer ++ inner) handler = compose inner handler >>= compose outer :=
  List.foldrM_append

end

/-- What a middleware builds from a next with the property has the property. -/
def Keeps (P : Handler → Prop) (middleware : Middleware Effect) : Prop :=
  ∀ next, P next → ∀ x built y, middleware next x = (.done built, y) → P built

theorem compose_keeps {P : Handler → Prop} {middlewares : List (Middleware Effect)}
    (hkeeps : ∀ middleware ∈ middlewares, Keeps P middleware) : Keeps P (compose middlewares) := by
  induction middlewares with
  | nil =>
    intro handler h x built y hrun
    obtain rfl : handler = built := by
      injection congrArg Prod.fst hrun
    exact h
  | cons middleware rest ih =>
    intro handler h x built y hrun
    rw [compose_cons] at hrun
    obtain ⟨next, z, hrest, hbuilt⟩ := Run.bind_eq_done hrun
    have hnext := ih (fun other hm => hkeeps other (List.mem_cons_of_mem _ hm)) handler h x next z
    exact hkeeps middleware List.mem_cons_self next (hnext hrest) z built y hbuilt

theorem compose_map_keeps {ι : Type} {P : Handler → Prop} {build : ι → Middleware Effect}
    {stages : List ι} (hkeeps : ∀ stage ∈ stages, Keeps P (build stage)) :
    Keeps P (compose (stages.map build)) := by
  apply compose_keeps
  intro middleware hm
  obtain ⟨stage, hstage, rfl⟩ := List.mem_map.mp hm
  exact hkeeps stage hstage

/-! ## What middlewares are given -/

/-- Notes nothing, neither when it is built nor when it serves, if its next does not. -/
structure IsQuiet (middleware : Middleware Effect) : Prop where
  building : ∀ next, next.Quiet → Quiet (middleware next)
  serving : Keeps Handler.Quiet middleware

/-- A middleware that notes when it is given its next. -/
def told (stage : String × Middleware Effect) : Middleware Effect := fun next => do
  note ("given " ++ stage.1)
  stage.2 next

/-- When the composition is built, its middlewares are given their next from the last one on, each
    once; only a failure leaves some of them without. None is given it again by requests. -/
def GivenOnce (stages : List (String × Middleware Effect)) (handler : Handler) (x : Exchange) :
    Prop :=
  let built := compose (stages.map told) handler x
  ∃ given left, (stages.map Prod.fst).reverse = given ++ left ∧
    built.2.notes = x.notes ++ given.map ("given " ++ ·) ∧
    ∀ served, built.1 = .done served →
      left = [] ∧ ∀ requests y, (served.serve requests y).2.notes = y.notes

theorem told_keeps_quiet {stage : String × Middleware Effect} (h : stage.2.IsQuiet) :
    Keeps Handler.Quiet (told stage) := by
  intro next hnext x built y hrun
  rw [told, Effect.note_bind] at hrun
  exact h.serving next hnext _ built y hrun

section
variable {stages : List (String × Middleware Effect)} {handler : Handler}

theorem compose_told_quiet (hstages : ∀ stage ∈ stages, stage.2.IsQuiet) :
    Keeps Handler.Quiet (compose (stages.map told)) :=
  compose_map_keeps fun stage hm => told_keeps_quiet (hstages stage hm)

/-- The notes of the building alone. -/
theorem compose_told_notes (hstages : ∀ stage ∈ stages, stage.2.IsQuiet) (h : handler.Quiet)
    (x : Exchange) :
    ∃ given left, (stages.map Prod.fst).reverse = given ++ left ∧
      (compose (stages.map told) handler x).2.notes =
        x.notes ++ given.map ("given " ++ ·) ∧
      ∀ served, (compose (stages.map told) handler x).1 = .done served →
        left = [] := by
  induction stages with
  | nil =>
    refine ⟨[], [], rfl, ?_, fun _ _ => rfl⟩
    show x.notes = x.notes ++ []
    rw [List.append_nil]
  | cons stage rest ih =>
    obtain ⟨name, middleware⟩ := stage
    have hrest : ∀ stage ∈ rest, stage.2.IsQuiet := fun other hm =>
      hstages other (List.mem_cons_of_mem _ hm)
    obtain ⟨given, left, hnames, hnotes, hall⟩ := ih hrest
    have hreverse : (((name, middleware) :: rest).map Prod.fst).reverse =
        given ++ (left ++ [name]) := by
      rw [List.map_cons, List.reverse_cons, hnames, List.append_assoc]
    have hcompose : compose (((name, middleware) :: rest).map told) handler =
        compose (rest.map told) handler >>= told (name, middleware) := compose_cons handler _ _
    rw [hcompose]
    cases hrun : compose (rest.map told) handler x with
    | mk outcome z =>
      rw [hrun] at hnotes hall
      cases outcome with
      | failed e =>
        rw [Run.bind_of_failed _ hrun]
        exact ⟨given, left ++ [name], hreverse, hnotes, fun served hserved => by cases hserved⟩
      | pending =>
        rw [Run.bind_of_pending _ hrun]
        exact ⟨given, left ++ [name], hreverse, hnotes, fun served hserved => by cases hserved⟩
      | done next =>
        have hnext : next.Quiet := compose_told_quiet hrest handler h x next z hrun
        have hbuilding : (middleware next (z.note ("given " ++ name))).2.notes =
            z.notes ++ ["given " ++ name] := by
          rw [(hstages _ List.mem_cons_self).building next hnext, Exchange.notes_note]
        obtain rfl := hall next rfl
        refine ⟨given ++ [name], [], ?_, ?_, fun _ _ => rfl⟩
        · rw [hreverse, List.nil_append, List.append_nil]
        · rw [Run.bind_of_done _ hrun, told, Effect.note_bind, hbuilding, hnotes, List.map_append,
            List.append_assoc]
          rfl

theorem compose_told (hstages : ∀ stage ∈ stages, stage.2.IsQuiet) (h : handler.Quiet)
    (x : Exchange) : GivenOnce stages handler x := by
  obtain ⟨given, left, hnames, hnotes, hall⟩ := compose_told_notes hstages h x
  refine ⟨given, left, hnames, hnotes, ?_⟩
  intro served hserved
  have hquiet : served.Quiet :=
    compose_told_quiet hstages handler h x served _ (Prod.ext hserved rfl)
  exact ⟨hall served hserved, fun requests y => Handler.serve_quiet hquiet requests y⟩

end

end Middleware

/-! ## The way of a request -/

/-- What is noted where a request gets to: at a stage, or at the handler behind all of them. -/
def arrival : List String → List String
  | [] => ["handler"]
  | name :: _ => ["enter " ++ name]

/-- What the way in notes, through stages that pass the request on. -/
def wayIn (passed rest : List String) : List String :=
  passed.flatMap (fun name => ["enter " ++ name, "pass " ++ name]) ++ arrival rest

/-- What the way back out of all stages notes that were entered. -/
def wayBack (entered : List String) : List String := entered.reverse.map ("leave " ++ ·)

/-- The stages that are entered are a front of all stages: those that pass the request on, and the
    first that does not. They are left in the reverse order, all of them unless the request is
    stuck for ever. -/
def Nested (names : List String) (x : Exchange) (result : Outcome Thrown Response × Exchange) :
    Prop :=
  ∃ passed rest back, names = passed ++ rest ∧
    result.2.notes = x.notes ++ wayIn passed rest ++ back ∧
    back <+: wayBack (passed ++ rest.take 1) ∧
    (result.1 ≠ .pending → back = wayBack (passed ++ rest.take 1))

theorem wayIn_cons (name : String) (passed rest : List String) :
    wayIn (name :: passed) rest = ["enter " ++ name, "pass " ++ name] ++ wayIn passed rest := by
  rw [wayIn, wayIn, List.flatMap_cons, List.append_assoc]

theorem wayBack_cons (name : String) (entered : List String) :
    wayBack (name :: entered) = wayBack entered ++ ["leave " ++ name] := by
  simp [wayBack]

namespace Handler

/-- Notes when a request enters, and when it leaves. -/
def watch (name : String) (handler : Handler) : Handler := fun request => do
  note ("enter " ++ name)
  let outcome ← Run.attempt (handler request)
  note ("leave " ++ name)
  Run.ofExcept outcome

theorem watch_outcome (name : String) (handler : Handler) (request : Request) (x : Exchange) :
    (handler.watch name request x).1 = (handler request (x.note ("enter " ++ name))).1 := by
  rw [watch, Effect.note_bind]
  cases hrun : handler request (x.note ("enter " ++ name)) with
  | mk outcome y =>
    cases outcome with
    | done response =>
      rw [Run.bind_of_done _ (Run.attempt_of_done hrun)]
      rfl
    | failed e =>
      rw [Run.bind_of_done _ (Run.attempt_of_failed hrun)]
      rfl
    | pending => rw [Run.bind_of_pending _ (Run.attempt_of_pending hrun)]

/-- A request that is not stuck leaves. -/
theorem watch_notes (name : String) (handler : Handler) (request : Request) (x : Exchange) :
    ∃ back, (handler.watch name request x).2.notes =
        (handler request (x.note ("enter " ++ name))).2.notes ++ back ∧
      ((handler.watch name request x).1 = .pending → back = []) ∧
      ((handler.watch name request x).1 ≠ .pending → back = ["leave " ++ name]) := by
  rw [watch_outcome, watch, Effect.note_bind]
  cases hrun : handler request (x.note ("enter " ++ name)) with
  | mk outcome y =>
    cases outcome with
    | done response =>
      rw [Run.bind_of_done _ (Run.attempt_of_done hrun), Effect.note_bind]
      exact ⟨["leave " ++ name], y.notes_note _, (fun h => by cases h), fun _ => rfl⟩
    | failed e =>
      rw [Run.bind_of_done _ (Run.attempt_of_failed hrun), Effect.note_bind]
      exact ⟨["leave " ++ name], y.notes_note _, (fun h => by cases h), fun _ => rfl⟩
    | pending =>
      rw [Run.bind_of_pending _ (Run.attempt_of_pending hrun)]
      exact ⟨[], (List.append_nil _).symm, fun _ => rfl, fun h => absurd rfl h⟩

/-- A handler around nested stages is one stage more, if it calls the first of them once at most. -/
theorem watch_nested {name : String} {names : List String} {handler next : Handler}
    (h : ∀ request x, CallsOnce (next.noting ("pass " ++ name)) x (handler request x))
    (hnext : ∀ request x, Nested names x (next request x)) (request : Request) (x : Exchange) :
    Nested (name :: names) x (handler.watch name request x) := by
  obtain ⟨last, hlast, hstuck, hleft⟩ := watch_notes name handler request x
  rcases h request (x.note ("enter " ++ name)) with hnotes | ⟨passed, z, hz, hnotes, hpending⟩
  · -- the request is not passed on
    have hway : (handler.watch name request x).2.notes =
        x.notes ++ wayIn [] (name :: names) ++ last := by
      rw [hlast, hnotes, Exchange.notes_note]
      rfl
    refine ⟨[], name :: names, last, rfl, hway, ?_, hleft⟩
    by_cases hpending : (handler.watch name request x).1 = .pending
    · rw [hstuck hpending]
      exact List.nil_prefix
    · rw [hleft hpending]
      exact List.prefix_rfl
  · -- it is passed on once, and what is noted inside is between the notes of this stage
    obtain ⟨front, rest, back, rfl, hinside, hprefix, hback⟩ :=
      hnext passed (z.note ("pass " ++ name))
    have hway : (handler.watch name request x).2.notes =
        x.notes ++ wayIn (name :: front) rest ++ (back ++ last) := by
      rw [hlast, hnotes]
      show (next passed (z.note ("pass " ++ name))).2.notes ++ last = _
      rw [hinside, Exchange.notes_note, hz, Exchange.notes_note, wayIn_cons]
      simp only [List.append_assoc, List.cons_append, List.nil_append]
    have hentered : wayBack (name :: front ++ rest.take 1) =
        wayBack (front ++ rest.take 1) ++ ["leave " ++ name] := wayBack_cons name _
    have hleaves : (handler.watch name request x).1 ≠ .pending →
        back ++ last = wayBack (front ++ rest.take 1) ++ ["leave " ++ name] := by
      intro hsettled
      have hinner : (next passed (z.note ("pass " ++ name))).1 ≠ .pending := fun hwaits =>
        hsettled ((watch_outcome name handler request x).trans (hpending hwaits))
      rw [hback hinner, hleft hsettled]
    refine ⟨name :: front, rest, back ++ last, rfl, hway, ?_, ?_⟩
    · rw [hentered]
      by_cases hwaits : (handler.watch name request x).1 = .pending
      · rw [hstuck hwaits, List.append_nil]
        exact hprefix.trans (List.prefix_append _ _)
      · rw [hleaves hwaits]
    · rw [hentered]
      exact hleaves

end Handler

namespace Middleware

/-- Builds nothing but layers around its next. -/
def IsLayered (middleware : Middleware Effect) : Prop :=
  ∀ next x built y, middleware next x = (.done built, y) →
    ∃ layer : Layer, layer.IsQuiet ∧ built = layer.through next

/-- A middleware that notes when a request enters it, when it passes the request on, and when the
    request leaves it. -/
def watched (stage : String × Middleware Effect) : Middleware Effect := fun next => do
  let handler ← stage.2 (next.noting ("pass " ++ stage.1))
  pure (handler.watch stage.1)

theorem exists_watched {stage : String × Middleware Effect} {next built : Handler}
    {x y : Exchange} (h : watched stage next x = (.done built, y)) :
    ∃ handler, stage.2 (next.noting ("pass " ++ stage.1)) x = (.done handler, y) ∧
      built = handler.watch stage.1 := by
  obtain ⟨handler, z, hhandler, hbuilt⟩ := Run.bind_eq_done h
  obtain ⟨rfl, rfl⟩ : handler.watch stage.1 = built ∧ z = y := by
    injection hbuilt with hdone hstate
    injection hdone with hwatch
    exact ⟨hwatch, hstate⟩
  exact ⟨handler, hhandler, rfl⟩

section
variable {stages : List (String × Middleware Effect)} {handler : Handler}

/-- Requests nest in a composition of layers. -/
theorem compose_watched (hstages : ∀ stage ∈ stages, stage.2.IsLayered) (h : handler.Quiet)
    {x y : Exchange} {served : Handler}
    (hrun : compose (stages.map watched) (handler.noting "handler") x =
      (.done served, y)) (request : Request) (z : Exchange) :
    Nested (stages.map Prod.fst) z (served request z) := by
  induction stages generalizing served y request z with
  | nil =>
    obtain rfl : handler.noting "handler" = served := by
      injection congrArg Prod.fst hrun
    refine ⟨[], [], [], rfl, ?_, List.nil_prefix, fun _ => rfl⟩
    show (handler request (z.note "handler")).2.notes = _
    rw [h request, Exchange.notes_note, List.append_nil]
    rfl
  | cons stage rest ih =>
    obtain ⟨name, middleware⟩ := stage
    rw [List.map_cons, compose_cons] at hrun
    obtain ⟨next, u, hnext, hbuilt⟩ := Run.bind_eq_done hrun
    obtain ⟨built, hlayered, rfl⟩ := exists_watched hbuilt
    obtain ⟨layer, hlayer, rfl⟩ := hstages _ List.mem_cons_self _ _ _ _ hlayered
    have hrest : ∀ stage ∈ rest, stage.2.IsLayered := fun other hm =>
      hstages other (List.mem_cons_of_mem _ hm)
    exact Handler.watch_nested (fun request u => Layer.through_callsOnce hlayer _ request u)
      (fun request u => ih hrest hnext request u) request z

theorem watched_keeps_settling {stage : String × Middleware Effect}
    (h : Keeps Handler.Settles stage.2) : Keeps Handler.Settles (watched stage) := by
  intro next hnext x built y hrun
  obtain ⟨inner, hinner, rfl⟩ := exists_watched hrun
  intro request z
  rw [Handler.watch_outcome]
  exact h _ (fun request u => hnext request _) x inner y hinner request _

/-- No request is stuck if no stage and not the handler can be. -/
theorem compose_watched_settles (hstages : ∀ stage ∈ stages, Keeps Handler.Settles stage.2)
    (h : handler.Settles) :
    ∀ x served y,
      compose (stages.map watched) (handler.noting "handler") x =
        (.done served, y) → served.Settles := by
  have hkeeps : Keeps Handler.Settles (compose (stages.map watched)) :=
    compose_map_keeps fun stage hm => watched_keeps_settling (hstages stage hm)
  exact hkeeps _ fun request x => h request _

/-- Requests nest in what the composition builds, and all stages that are entered are left if none
    of them, and not the handler, is ever stuck. -/
def RequestsNest (stages : List (String × Middleware Effect)) (handler : Handler) : Prop :=
  ∀ x served y,
    compose (stages.map watched) (handler.noting "handler") x =
        (.done served, y) →
      (∀ request z, Nested (stages.map Prod.fst) z (served request z)) ∧
        ((∀ stage ∈ stages, Keeps Handler.Settles stage.2) → handler.Settles → served.Settles)

theorem requestsNest_of_layered (hstages : ∀ stage ∈ stages, stage.2.IsLayered)
    (h : handler.Quiet) : RequestsNest stages handler := by
  intro x served y hrun
  refine ⟨fun request z => compose_watched hstages h hrun request z, ?_⟩
  intro hsettles hhandler
  exact compose_watched_settles hsettles hhandler x served y hrun

end

/-- A middleware whose building does nothing else. -/
def plain (middleware : Middleware Id) : Middleware Effect := fun next => pure (middleware next)

theorem compose_plain (middlewares : List (Middleware Id)) (handler : Handler) :
    compose (middlewares.map plain) handler = pure (compose middlewares handler) := by
  induction middlewares with
  | nil => rfl
  | cons middleware rest ih =>
    have hcons : compose (middleware :: rest) handler = middleware (compose rest handler) :=
      compose_cons handler middleware rest
    rw [List.map_cons, compose_cons, ih, pure_bind, plain, hcons]

theorem plain_built {middleware : Middleware Id} {next built : Handler} {x y : Exchange}
    (h : plain middleware next x = (.done built, y)) : middleware next = built := by
  injection congrArg Prod.fst h

theorem plain_isLayered {middleware : Middleware Id} {layer : Layer} (hlayer : layer.IsQuiet)
    (h : ∀ next, middleware next = layer.through next) : (plain middleware).IsLayered := by
  intro next x built y hrun
  exact ⟨layer, hlayer, plain_built hrun ▸ h next⟩

theorem IsLayered.keeps_quiet {middleware : Middleware Effect} (h : middleware.IsLayered) :
    Keeps Handler.Quiet middleware := by
  intro next hnext x built y hrun
  obtain ⟨layer, hlayer, rfl⟩ := h next x built y hrun
  exact layer.through_quiet hlayer hnext

theorem plain_isQuiet {middleware : Middleware Id} (h : (plain middleware).IsLayered) :
    (plain middleware).IsQuiet where
  building _ _ _ := rfl
  serving := h.keeps_quiet

theorem plain_keeps_settling {middleware : Middleware Id}
    (h : ∀ next : Handler, next.Settles → Handler.Settles (middleware next)) :
    Keeps Handler.Settles (plain middleware) := by
  intro next hnext x built y hrun
  exact plain_built hrun ▸ h next hnext

end Middleware

/-! ## The middlewares of the server -/

namespace Server
open Middleware (plain addHeaders proxy compose)

/-- The middlewares of the server by name. -/
def stages (s : Server) (forward : Forwarder) : List (String × Middleware Id) :=
  [("headers", addHeaders s.headers), ("proxy", proxy s.rules forward)]

theorem compose_stages (s : Server) (forward : Forwarder) (fallback : Option Handler) :
    compose ((s.stages forward).map fun stage => plain stage.2)
      (fallback.getD (NotFound.handler s.rules)) = pure (s.handler forward fallback) :=
  Middleware.compose_plain ((s.stages forward).map Prod.snd) _

/-- The middlewares of the server are layers. -/
theorem stages_layered (s : Server) {forward : Forwarder} (h : forward.IsQuiet) :
    ∀ stage ∈ s.stages forward, (plain stage.2).IsLayered := by
  intro stage hm
  rcases List.mem_pair.mp hm with rfl | rfl
  · exact Middleware.plain_isLayered (Middleware.headersLayer_isQuiet s.headers)
      (Middleware.addHeaders_eq_through s.headers)
  · exact Middleware.plain_isLayered (Middleware.proxyLayer_isQuiet s.rules h)
      (Middleware.proxy_eq_through s.rules forward)

/-- Requests nest in the chain of the server, whatever handler is behind it. -/
theorem requests_nest (s : Server) {forward : Forwarder} (hforward : forward.IsQuiet)
    {fallback : Handler} (hfallback : fallback.Quiet) :
    Middleware.RequestsNest ((s.stages forward).map fun stage => (stage.1, plain stage.2))
      fallback := by
  apply Middleware.requestsNest_of_layered _ hfallback
  intro stage hm
  obtain ⟨own, hown, rfl⟩ := List.mem_map.mp hm
  exact s.stages_layered hforward own hown

end Server

/-! ## All of it -/

namespace Middleware

/-- Compositions are associative in all they do while they are built and while they serve, and the
    empty one is the handler. Building gives each middleware its next once, and requests nest in
    the layers that are built. -/
theorem compose_nests (handler : Handler) :
    (∀ outer inner : List (Middleware Effect),
      compose (outer ++ inner) handler = compose inner handler >>= compose outer ∧
      ∀ requests, (do (← compose (outer ++ inner) handler).serve requests) = do
        let next ← compose inner handler
        let served ← compose outer next
        served.serve requests) ∧
    compose (m := Effect) [] handler = pure handler ∧
    ∀ stages : List (String × Middleware Effect), handler.Quiet →
      ((∀ stage ∈ stages, stage.2.IsQuiet) → ∀ x, GivenOnce stages handler x) ∧
      ((∀ stage ∈ stages, stage.2.IsLayered) → RequestsNest stages handler) := by
  refine ⟨?_, rfl, ?_⟩
  · intro outer inner
    refine ⟨compose_append handler outer inner, ?_⟩
    intro requests
    rw [compose_append, bind_assoc]
  · intro stages hquiet
    exact ⟨fun hstages x => compose_told hstages hquiet x, fun hstages =>
      requestsNest_of_layered hstages hquiet⟩

/-- Three stages: the first rescues, the second passes on, and the third fails. -/
def rescuedStages : List (String × Middleware Effect) :=
  [("outer", plain (Scripted.Stage.mk "outer" none none (some ⟨503, [], .none⟩)).layer.through),
    ("middle", plain (Scripted.Stage.mk "middle" none none none).layer.through),
    ("inner",
      plain (Scripted.Stage.mk "inner" (some (.failure "broken" none)) none none).layer.through)]

/-- A failure of the third stage leaves all three, and does not get to the handler. -/
theorem rescued_failure_nests :
    let handler := Scripted.handler (.respond ⟨200, [], .none⟩)
    GivenOnce rescuedStages handler (.begin .empty) ∧
    ∃ served,
      compose (rescuedStages.map watched) (handler.noting "handler")
        (.begin .empty) = (.done served, .begin .empty) ∧
      served.Settles ∧
      Nested ["outer", "middle", "inner"] (.begin .empty) (served apiRequest (.begin .empty)) ∧
      (served apiRequest (.begin .empty)).1 = .done ⟨503, [], .none⟩ ∧
      (served apiRequest (.begin .empty)).2.notes =
        ["enter outer", "pass outer", "enter middle", "pass middle", "enter inner",
          "leave inner", "leave middle", "leave outer"] := by
  intro handler
  have hquiet : handler.Quiet := by
    intro request x
    simp [handler, Scripted.handler_run, Exchange.append, Exchange.notes]
  have hsettles : handler.Settles := by
    intro request x hpending
    cases hpending
  have hscripted : ∀ stage ∈ rescuedStages, ∃ script : Scripted.Stage,
      stage.2 = plain script.layer.through := by
    intro stage hm
    simp only [rescuedStages, List.mem_cons, List.not_mem_nil, or_false] at hm
    rcases hm with rfl | rfl | rfl <;> exact ⟨_, rfl⟩
  have hlayered : ∀ stage ∈ rescuedStages, stage.2.IsLayered := by
    intro stage hm
    obtain ⟨script, hscript⟩ := hscripted stage hm
    exact hscript ▸ plain_isLayered script.layer_isQuiet fun _ => rfl
  have hstages : ∀ stage ∈ rescuedStages, stage.2.IsQuiet := by
    intro stage hm
    have hlayers := hlayered stage hm
    obtain ⟨script, hscript⟩ := hscripted stage hm
    rw [hscript] at hlayers ⊢
    exact plain_isQuiet hlayers
  have hkeeps : ∀ stage ∈ rescuedStages, Keeps Handler.Settles stage.2 := by
    intro stage hm
    obtain ⟨script, hscript⟩ := hscripted stage hm
    exact hscript ▸ plain_keeps_settling fun _ hnext => script.layer_settles hnext
  obtain ⟨-, -, hall⟩ := compose_nests handler
  obtain ⟨hgiven, hnest⟩ := hall rescuedStages hquiet
  refine ⟨hgiven hstages _, _, rfl, ?_, ?_, rfl, by decide⟩
  · exact (hnest hlayered (.begin .empty) _ (.begin .empty) rfl).2 hkeeps hsettles
  · exact (hnest hlayered (.begin .empty) _ (.begin .empty) rfl).1 apiRequest (.begin .empty)

end Middleware

end Gateway
