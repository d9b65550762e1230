import Gateway.Proofs.Fields
import Gateway.Scripted

/- Which way a request takes through the proxy stage. `PassesOn` says when a request
   is passed on and to which URL; in every other case it goes to the next handler.
   With a forwarder and a next handler that note their calls, `FailsOpen` lists the
   ways a run may end, each with its guard and with everything it adds to the journal,
   and `failsOpen_iff` says when a run is exactly one of them: unless the forwarder
   fails with a value that cannot be shown. The report about such a failure fails
   itself, so the next handler is never asked (`unshown_failure_surfaces`). -/
namespace Gateway

/-- The path that decides which rule a request belongs to. -/
def Request.canonicalPath (r : Request) : String := RequestPath.normalize r.url.pathname

/-- The exchange after more events. -/
def Exchange.append (x : Exchange) (events : List Event) : Exchange :=
  { x with journal := x.journal ++ events }

@[simp] theorem Exchange.append_journal (x : Exchange) (events : List Event) :
    (x.append events).journal = x.journal ++ events := rfl

@[simp] theorem Exchange.append_append (x : Exchange) (a b : List Event) :
    (x.append a).append b = x.append (a ++ b) := by
  simp [append]

@[simp] theorem Exchange.append_nil (x : Exchange) : x.append [] = x := by
  simp [append]

theorem Exchange.append_cancel {x : Exchange} {a b : List Event} (h : x.append a = x.append b) :
    a = b := by
  have hj := congrArg Exchange.journal h
  rw [append_journal, append_journal] at hj
  exact List.append_cancel_left hj

/-! ## Headers without numbers -/

/-- Every value is a text, a list of texts or missing, as it comes from a connection. -/
def Headers.Textual (headers : Headers) : Prop := ∀ field ∈ headers, ∀ n, field.2 ≠ .number n

namespace Headers

theorem textFor_of_textual {headers : Headers} (h : headers.Textual) (operation name : String) :
    ∃ text, headers.textFor operation name = .ok text := by
  unfold textFor Fields.get?
  cases hv : headers.lookup name with
  | none => exact ⟨"", rfl⟩
  | some value =>
    cases value with
    | number n => exact absurd rfl (h _ (Fields.mem_of_lookup hv) n)
    | text value => exact ⟨_, rfl⟩
    | list values => exact ⟨_, rfl⟩
    | absent => exact ⟨_, rfl⟩

/-- Such headers always say whether they ask for a switch of protocols. -/
theorem wantsWebsocket_of_textual {headers : Headers} (h : headers.Textual) :
    ∃ wants, headers.wantsWebsocket = .ok wants := by
  obtain ⟨upgrade, hu⟩ := textFor_of_textual h "trim" "upgrade"
  obtain ⟨connection, hc⟩ := textFor_of_textual h "toLowerCase" "connection"
  exact ⟨isWebsocket upgrade connection, by rw [wantsWebsocket, hu, hc]; rfl⟩

end Headers

/-! ## Collaborators that note their calls -/

namespace Scripted

def Script.outcome : Script → Outcome Thrown Response
  | .respond response => .done response
  | .fail error => .failed error

def ForwardScript.outcome : ForwardScript → Outcome Thrown Response
  | .each script => script.outcome
  | .failAtOnce error => .failed error

/-- What a forwarder notes: a request only if it did not fail before it was given one. -/
def ForwardScript.call (f : ForwardScript) (base : Url) (request : Request) : Event :=
  match f with
  | .each _ => .forwarded base (some request)
  | .failAtOnce _ => .forwarded base none

theorem handler_run (n : Script) (request : Request) (x : Exchange) :
    handler n request x = (n.outcome, x.append [.handled request]) := by
  cases n <;> rfl

theorem forwarder_run (f : ForwardScript) (base : Url) (request : Request) (x : Exchange) :
    (do (← forwarder f base) request : Effect Response) x =
      (f.outcome, x.append [f.call base request]) := by
  cases f with
  | each script => cases script <;> rfl
  | failAtOnce error => rfl

theorem ForwardScript.outcome_cases (f : ForwardScript) :
    (∃ response, f.outcome = .done response) ∨ ∃ e, f.outcome = .failed e := by
  cases f with
  | each script =>
    cases script with
    | respond response => exact .inl ⟨response, rfl⟩
    | fail e => exact .inr ⟨e, rfl⟩
  | failAtOnce e => exact .inr ⟨e, rfl⟩

end Scripted

/-! ## The ways through the stage -/

namespace Middleware
open Scripted

/-- The request is passed on by this rule, with this base, to this URL. -/
structure PassesOn (rules : RuleSet) (request : Request) (rule : Rule) (base url : Url) : Prop where
  chosen : rules.resolve request.canonicalPath = some rule
  plain : request.headers.wantsWebsocket = .ok false
  outbound : outbound? rule request.canonicalPath request = some (base, url)

/-- The URL that a request is passed on to is the rewritten path below the target. -/
theorem outbound?_eq_some_iff {rule : Rule} {path : String} {request : Request} {base url : Url} :
    outbound? rule path request = some (base, url) ↔
      Url.ofText? rule.target = some base ∧
        ∃ resolved, Url.parse? (rule.rewritten path) (some base) = some resolved ∧
          (if resolved.search = "" then resolved.withSearch request.url.search else resolved) =
            url := by
  unfold outbound?
  cases hb : Url.ofText? rule.target with
  | none => simp
  | some b =>
    cases hr : Url.parse? (rule.rewritten path) (some b) with
    | none =>
      constructor
      · intro h; simp [hr] at h
      · rintro ⟨hbase, resolved, hres, -⟩
        obtain rfl := Option.some.inj hbase
        rw [hr] at hres; cases hres
    | some resolved =>
      simp only [hr, Option.bind_eq_bind, Option.bind_some, Option.pure_def, Option.some.injEq,
        Prod.mk.injEq]
      constructor
      · rintro ⟨rfl, h⟩
        exact ⟨rfl, resolved, hr, h⟩
      · rintro ⟨rfl, other, hother, h⟩
        rw [hr] at hother
        obtain rfl := Option.some.inj hother
        exact ⟨rfl, h⟩

/-- There is none if the target is no URL, or if it cannot carry the rewritten path. -/
theorem outbound?_eq_none_iff {rule : Rule} {path : String} {request : Request} :
    outbound? rule path request = none ↔
      ∀ base, Url.ofText? rule.target = some base →
        Url.parse? (rule.rewritten path) (some base) = none := by
  unfold outbound?
  cases hb : Url.ofText? rule.target with
  | none => simp
  | some b =>
    cases hr : Url.parse? (rule.rewritten path) (some b) with
    | none => simp [hr]
    | some resolved => simp [hr]

/-- The base is the target of the rule. -/
theorem PassesOn.target {rules : RuleSet} {request : Request} {rule : Rule} {base url : Url}
    (h : PassesOn rules request rule base url) : Url.ofText? rule.target = some base :=
  (outbound?_eq_some_iff.mp h.outbound).1

section
variable {rules : RuleSet} {request : Request} {rule : Rule} {base url : Url}

theorem proxy_unmatched (forward : Forwarder) (next : Handler)
    (h : rules.resolve request.canonicalPath = none) :
    proxy rules forward next request = next request := by
  unfold Request.canonicalPath at h
  simp only [proxy, h]

theorem proxy_unreadable (forward : Forwarder) (next : Handler) {e : Thrown}
    (hrule : rules.resolve request.canonicalPath = some rule)
    (hwants : request.headers.wantsWebsocket = .error e) :
    proxy rules forward next request = Run.fail e := by
  unfold Request.canonicalPath at hrule
  simp only [proxy, hrule, hwants]

theorem proxy_upgrade (forward : Forwarder) (next : Handler)
    (hrule : rules.resolve request.canonicalPath = some rule)
    (hwants : request.headers.wantsWebsocket = .ok true) :
    proxy rules forward next request =
      (do Effect.report (noWebsocket request.canonicalPath); next request) := by
  unfold Request.canonicalPath at hrule ⊢
  simp only [proxy, hrule, hwants]

theorem proxy_unusable (forward : Forwarder) (next : Handler)
    (hrule : rules.resolve request.canonicalPath = some rule)
    (hwants : request.headers.wantsWebsocket = .ok false)
    (hurl : outbound? rule request.canonicalPath request = none) :
    proxy rules forward next request = fallThrough rule.target next request .invalidUrl := by
  unfold Request.canonicalPath at hrule hurl
  simp only [proxy, forwardBy, hrule, hwants, hurl]

theorem proxy_passesOn (forward : Forwarder) (next : Handler)
    (h : PassesOn rules request rule base url) :
    proxy rules forward next request =
      Run.rescue (do (← forward base) (request.withUrl url)) (fallThrough url.href next request) := by
  have hrule := h.chosen
  have hurl := h.outbound
  unfold Request.canonicalPath at hrule hurl
  simp only [proxy, forwardBy, hrule, h.plain, hurl]

end

/-- The ways of a request; the second one needs a header that is a number. -/
theorem ways (rules : RuleSet) (request : Request) :
    rules.resolve request.canonicalPath = none ∨
    (∃ rule e, rules.resolve request.canonicalPath = some rule ∧
      request.headers.wantsWebsocket = .error e) ∨
    (∃ rule, rules.resolve request.canonicalPath = some rule ∧
      request.headers.wantsWebsocket = .ok true) ∨
    (∃ rule, rules.resolve request.canonicalPath = some rule ∧
      request.headers.wantsWebsocket = .ok false ∧
      outbound? rule request.canonicalPath request = none) ∨
    ∃ rule base url, PassesOn rules request rule base url := by
  cases hrule : rules.resolve request.canonicalPath with
  | none => exact .inl rfl
  | some rule =>
    refine .inr ?_
    cases hwants : request.headers.wantsWebsocket with
    | error e => exact .inl ⟨rule, e, rfl, rfl⟩
    | ok wants =>
      refine .inr ?_
      cases wants with
      | true => exact .inl ⟨rule, rfl, rfl⟩
      | false =>
        refine .inr ?_
        cases hurl : outbound? rule request.canonicalPath request with
        | none => exact .inl ⟨rule, rfl, rfl, hurl⟩
        | some pair => exact .inr ⟨rule, pair.1, pair.2, hrule, hwants, hurl⟩

/-! ## Runs of the stage -/

/-- A failure that can be shown is reported, and then the next handler takes over. -/
theorem fallThrough_shown {request : Request} {e : Thrown} {reason : String} (target : String)
    (next : Handler) (x : Exchange) (h : e.message? = some reason) :
    fallThrough target next request e x =
      next request (x.append [.logged (proxyFailed target reason)]) := by
  rw [fallThrough, Run.bind_of_done _ (Thrown.shown_of_some h x)]
  rfl

/-- A failure without a text takes the place of the report, and nothing else happens. -/
theorem fallThrough_unshown {request : Request} {e : Thrown} (target : String) (next : Handler)
    (x : Exchange) (h : e.message? = none) :
    fallThrough target next request e x = (.failed .noText, x) := by
  rw [fallThrough, Run.bind_of_failed _ (Thrown.shown_of_none h x)]

/-- A request that is not passed on goes to the next handler, behind what has been logged. Only
    headers that cannot be read keep it from there. -/
theorem proxy_of_not_passesOn {rules : RuleSet} {request : Request}
    (h : ∀ rule base url, ¬ PassesOn rules request rule base url) (forward : Forwarder)
    (next : Handler) (x : Exchange) :
    (∃ entries : List LogEntry, proxy rules forward next request x =
      next request (x.append (entries.map .logged))) ∨
    ∃ e, request.headers.wantsWebsocket = .error e ∧
      proxy rules forward next request x = (.failed e, x) := by
  rcases ways rules request with hrule | ⟨rule, e, hrule, hwants⟩ | ⟨rule, hrule, hwants⟩ |
    ⟨rule, hrule, hwants, hurl⟩ | ⟨rule, base, url, hon⟩
  · refine .inl ⟨[], ?_⟩
    rw [proxy_unmatched _ _ hrule, List.map_nil, Exchange.append_nil]
  · refine .inr ⟨e, hwants, ?_⟩
    rw [proxy_unreadable _ _ hrule hwants]
    rfl
  · refine .inl ⟨[noWebsocket request.canonicalPath], ?_⟩
    rw [proxy_upgrade _ _ hrule hwants]
    rfl
  · refine .inl ⟨[proxyFailed rule.target "Invalid URL"], ?_⟩
    rw [proxy_unusable _ _ hrule hwants hurl]
    exact fallThrough_shown _ next x rfl
  · exact absurd hon (h rule base url)

/-! ## Runs with noting collaborators -/

section
variable {rules : RuleSet} {request : Request} {rule : Rule} {base url : Url}
  (f : ForwardScript) (n : Script) (x : Exchange)

theorem fallThrough_run {e : Thrown} {reason : String} (target : String)
    (h : e.message? = some reason) :
    fallThrough target (handler n) request e x =
      (n.outcome, x.append [.logged (proxyFailed target reason), .handled request]) := by
  rw [fallThrough_shown target _ x h, handler_run, Exchange.append_append]
  rfl

theorem proxy_upgrade_run (forward : Forwarder)
    (hrule : rules.resolve request.canonicalPath = some rule)
    (hwants : request.headers.wantsWebsocket = .ok true) :
    proxy rules forward (handler n) request x =
      (n.outcome, x.append [.logged (noWebsocket request.canonicalPath), .handled request]) := by
  have hrun : proxy rules forward (handler n) request x =
      handler n request (x.append [.logged (noWebsocket request.canonicalPath)]) := by
    rw [proxy_upgrade _ _ hrule hwants]; rfl
  rw [hrun, handler_run, Exchange.append_append]
  rfl

theorem proxy_answered {response : Response} (h : PassesOn rules request rule base url)
    (hf : f.outcome = .done response) :
    proxy rules (forwarder f) (handler n) request x =
      (.done response, x.append [f.call base (request.withUrl url)]) := by
  rw [proxy_passesOn _ _ h, Run.rescue, forwarder_run, hf]

theorem proxy_failed {e : Thrown} (h : PassesOn rules request rule base url)
    (hf : f.outcome = .failed e) :
    proxy rules (forwarder f) (handler n) request x =
      fallThrough url.href (handler n) request e (x.append [f.call base (request.withUrl url)]) := by
  rw [proxy_passesOn _ _ h, Run.rescue, forwarder_run, hf]

/-- What was passed on by a run is what the stage passes on of its request. -/
theorem passesOn_of_forwarded {r : Request} {inbound : Stream}
    (h : Event.forwarded base (some r) ∈
      (proxy rules (forwarder f) (handler n) request (.begin inbound)).2.journal) :
    ∃ rule url, PassesOn rules request rule base url ∧ r = request.withUrl url := by
  rcases ways rules request with hrule | ⟨rule, e, hrule, hwants⟩ | ⟨rule, hrule, hwants⟩ |
    ⟨rule, hrule, hwants, hurl⟩ | ⟨rule, b, url, hon⟩
  · rw [proxy_unmatched _ _ hrule, handler_run] at h
    simp [Exchange.begin] at h
  · rw [proxy_unreadable _ _ hrule hwants] at h
    simp [Exchange.begin, Run.fail] at h
  · rw [proxy_upgrade_run n _ _ hrule hwants] at h
    simp [Exchange.begin] at h
  · rw [proxy_unusable _ _ hrule hwants hurl, fallThrough_run n _ _ rfl] at h
    simp [Exchange.begin] at h
  · -- the call of the forwarder is the only event of this kind, however it ends
    have hcall : Event.forwarded base (some r) = f.call b (request.withUrl url) := by
      rcases f.outcome_cases with ⟨response, hf⟩ | ⟨e, hf⟩
      · rw [proxy_answered f n _ hon hf] at h
        simpa [Exchange.begin] using h
      · rw [proxy_failed f n _ hon hf] at h
        cases he : e.message? with
        | none =>
          rw [fallThrough_unshown _ _ _ he] at h
          simpa [Exchange.begin] using h
        | some reason =>
          rw [fallThrough_run n _ _ he] at h
          simpa [Exchange.begin] using h
    -- and it notes a request only if the forwarder did not fail at once
    cases f with
    | each script =>
      simp only [ForwardScript.call, Event.forwarded.injEq, Option.some.injEq] at hcall
      obtain ⟨rfl, rfl⟩ := hcall
      exact ⟨rule, url, hon, rfl⟩
    | failAtOnce e =>
      simp [ForwardScript.call] at hcall

/-- There is only one way to pass a request on. -/
theorem PassesOn.unique {rule' : Rule} {base' url' : Url} (h : PassesOn rules request rule base url)
    (h' : PassesOn rules request rule' base' url') : base' = base ∧ url' = url := by
  obtain rfl := Option.some.inj (h.chosen.symm.trans h'.chosen)
  have hpair := Option.some.inj (h'.outbound.symm.trans h.outbound)
  exact Prod.mk.inj hpair

/-- A forwarder that does not fail at once is given what the stage passes on. -/
theorem forwarded_of_passesOn (script : Script) (h : PassesOn rules request rule base url) :
    Event.forwarded base (some (request.withUrl url)) ∈
      (proxy rules (forwarder (.each script)) (handler n) request x).2.journal := by
  rcases (ForwardScript.each script).outcome_cases with ⟨response, hf⟩ | ⟨e, hf⟩
  · rw [proxy_answered _ n x h hf]
    simp [ForwardScript.call]
  · rw [proxy_failed _ n x h hf]
    cases he : e.message? with
    | none =>
      rw [fallThrough_unshown _ _ _ he]
      simp [ForwardScript.call]
    | some reason =>
      rw [fallThrough_run n _ _ he]
      simp [ForwardScript.call]

end

/-- The forwarder is given nothing else. -/
theorem forwarded_iff (script n : Script) (inbound : Stream) {rules : RuleSet}
    {request r : Request} {rule : Rule} {base b url : Url}
    (h : PassesOn rules request rule base url) :
    Event.forwarded b (some r) ∈
      (proxy rules (forwarder (.each script)) (handler n) request (.begin inbound)).2.journal ↔
        b = base ∧ r = request.withUrl url := by
  constructor
  · intro hmem
    obtain ⟨rule', url', h', rfl⟩ := passesOn_of_forwarded _ n hmem
    obtain ⟨rfl, rfl⟩ := h.unique h'
    exact ⟨rfl, rfl⟩
  · rintro ⟨rfl, rfl⟩
    exact forwarded_of_passesOn n (.begin inbound) script h

/-- The ways in which a run of the stage may end. -/
inductive Way
  | unmatched
  | upgrade
  | unusable
  | answered
  | failed
deriving Repr, DecidableEq

/-- What each way promises: when it is taken, the outcome and the exchange after it. -/
inductive FailsOpen (rules : RuleSet) (f : ForwardScript) (n : Script) (request : Request)
    (x : Exchange) : Way → Outcome Thrown Response × Exchange → Prop
  /-- No rule is for the path. Nothing is forwarded and nothing is logged. -/
  | unmatched (hrule : rules.resolve request.canonicalPath = none) :
    FailsOpen rules f n request x .unmatched (n.outcome, x.append [.handled request])
  /-- A switch of protocols is asked for: one warning, and nothing is forwarded. -/
  | upgrade (rule : Rule) (hrule : rules.resolve request.canonicalPath = some rule)
    (hwants : request.headers.wantsWebsocket = .ok true) :
    FailsOpen rules f n request x .upgrade
      (n.outcome, x.append [.logged (noWebsocket request.canonicalPath), .handled request])
  /-- The target is no URL, or it cannot carry the path: one error line, and the forwarder is
      not asked. -/
  | unusable (rule : Rule) (hrule : rules.resolve request.canonicalPath = some rule)
    (hwants : request.headers.wantsWebsocket = .ok false)
    (hurl : ∀ base, Url.ofText? rule.target = some base →
      Url.parse? (rule.rewritten request.canonicalPath) (some base) = none) :
    FailsOpen rules f n request x .unusable
      (n.outcome, x.append [.logged (proxyFailed rule.target "Invalid URL"), .handled request])
  /-- The forwarder answers, and its response is the result. -/
  | answered (rule : Rule) (base url : Url) (response : Response)
    (h : PassesOn rules request rule base url) (htarget : Url.ofText? rule.target = some base)
    (hf : f.outcome = .done response) :
    FailsOpen rules f n request x .answered
      (.done response, x.append [f.call base (request.withUrl url)])
  /-- The forwarder fails: one error line, with the text of the failure if it has one. -/
  | failed (rule : Rule) (base url : Url) (e : Thrown) (reason : String)
    (h : PassesOn rules request rule base url) (htarget : Url.ofText? rule.target = some base)
    (hf : f.outcome = .failed e) (hreason : ∀ text, e.message? = some text → reason = text) :
    FailsOpen rules f n request x .failed
      (n.outcome, x.append [f.call base (request.withUrl url),
        .logged (proxyFailed url.href reason), .handled request])

/-- The way of a request, as the rules, its headers, the target and the forwarder decide it. -/
def wayOf (rules : RuleSet) (f : ForwardScript) (request : Request) : Way :=
  match rules.resolve request.canonicalPath with
  | none => .unmatched
  | some rule =>
    if request.headers.wantsWebsocket.toOption = some false then
      if (outbound? rule request.canonicalPath request).isNone then .unusable
      else
        match f.outcome with
        | .done _ => .answered
        | _ => .failed
    else .upgrade

section
variable {rules : RuleSet} {request : Request} (f : ForwardScript) (n : Script) (x : Exchange)

/-- No two ways are open to a request. -/
theorem FailsOpen.way_eq {f : ForwardScript} {n : Script} {x : Exchange} {way : Way}
    {y : Outcome Thrown Response × Exchange} (h : FailsOpen rules f n request x way y) :
    way = wayOf rules f request := by
  cases h with
  | unmatched hrule => simp [wayOf, hrule]
  | upgrade rule hrule hwants => simp [wayOf, hrule, hwants, Except.toOption]
  | unusable rule hrule hwants hurl =>
    simp [wayOf, hrule, hwants, outbound?_eq_none_iff.mpr hurl, Except.toOption]
  | answered rule base url response hon _ hf =>
    simp [wayOf, hon.chosen, hon.plain, hon.outbound, hf, Except.toOption]
  | failed rule base url e _ hon _ hf =>
    simp [wayOf, hon.chosen, hon.plain, hon.outbound, hf, Except.toOption]

/-- A failure without a text comes out of the stage as another failure: nothing is logged,
    and the next handler is not asked. -/
theorem unshown_failure_surfaces {rule : Rule} {base url : Url} {e : Thrown}
    (h : PassesOn rules request rule base url) (hf : f.outcome = .failed e)
    (he : e.message? = none) :
    proxy rules (forwarder f) (handler n) request x =
      (.failed .noText, x.append [f.call base (request.withUrl url)]) := by
  rw [proxy_failed f n x h hf, fallThrough_unshown _ _ _ he]

/-- Such a run is none of the promised ways. -/
theorem not_failsOpen_of_unshown {rule : Rule} {base url : Url} {e : Thrown}
    (h : PassesOn rules request rule base url) (hf : f.outcome = .failed e)
    (he : e.message? = none) (way : Way) :
    ¬ FailsOpen rules f n request x way (proxy rules (forwarder f) (handler n) request x) := by
  intro hopen
  rw [unshown_failure_surfaces f n x h hf he] at hopen
  -- the result is made a variable, since the ways give theirs in another form
  generalize hy : (Outcome.failed Thrown.noText,
    x.append [f.call base (request.withUrl url)]) = y at hopen
  cases hopen with
  | unmatched hrule => exact absurd (hrule.symm.trans h.chosen) (by simp)
  | upgrade _ _ hwants => exact absurd (hwants.symm.trans h.plain) (by simp)
  | unusable rule' hrule _ hurl =>
    obtain rfl := Option.some.inj (hrule.symm.trans h.chosen)
    exact absurd ((outbound?_eq_none_iff.mpr hurl).symm.trans h.outbound) (by simp)
  | answered _ _ _ _ _ _ hf' => exact absurd (hf'.symm.trans hf) (by simp)
  | failed =>
    -- the run has added one event, the call of the forwarder, and this way adds three
    have hx := Exchange.append_cancel (Prod.mk.inj hy).2
    simp at hx

/-- A run is one of the promised ways if every failure of the forwarder can be shown. -/
theorem failsOpen_of_shown (htext : request.headers.Textual)
    (hshown : ∀ rule base url e, PassesOn rules request rule base url → f.outcome = .failed e →
      e.message? ≠ none) :
    ∃ way, FailsOpen rules f n request x way (proxy rules (forwarder f) (handler n) request x) := by
  rcases ways rules request with hrule | ⟨rule, e, hrule, hwants⟩ | ⟨rule, hrule, hwants⟩ |
    ⟨rule, hrule, hwants, hurl⟩ | ⟨rule, base, url, h⟩
  · rw [proxy_unmatched _ _ hrule, handler_run]
    exact ⟨_, .unmatched hrule⟩
  · -- only a number as the value of a header cannot be read
    obtain ⟨wants, hw⟩ := Headers.wantsWebsocket_of_textual htext
    rw [hw] at hwants; cases hwants
  · rw [proxy_upgrade_run n x _ hrule hwants]
    exact ⟨_, .upgrade rule hrule hwants⟩
  · rw [proxy_unusable _ _ hrule hwants hurl, fallThrough_run n x _ rfl]
    exact ⟨_, .unusable rule hrule hwants (outbound?_eq_none_iff.mp hurl)⟩
  · rcases f.outcome_cases with ⟨response, hf⟩ | ⟨e, hf⟩
    · rw [proxy_answered f n x h hf]
      exact ⟨_, .answered rule base url response h h.target hf⟩
    · obtain ⟨reason, hreason⟩ := Option.ne_none_iff_exists'.mp (hshown rule base url e h hf)
      rw [proxy_failed f n x h hf, fallThrough_run n _ _ hreason, Exchange.append_append]
      exact ⟨_, .failed rule base url e reason h h.target hf
        (fun text ht => Option.some.inj (hreason.symm.trans ht))⟩

end

/-- A run is exactly one of the promised ways, unless the request is passed on and the forwarder
    fails with a value that has no text. -/
theorem failsOpen_iff (rules : RuleSet) (f : ForwardScript) (n : Script) (request : Request)
    (x : Exchange) (htext : request.headers.Textual) :
    (∃ way, FailsOpen rules f n request x way
        (proxy rules (forwarder f) (handler n) request x) ∧
      ∀ other y, FailsOpen rules f n request x other y → other = way) ↔
      ∀ rule base url e, PassesOn rules request rule base url → f.outcome = .failed e →
        e.message? ≠ none := by
  constructor
  · rintro ⟨way, hopen, _⟩ rule base url e h hf he
    exact not_failsOpen_of_unshown f n x h hf he way hopen
  · intro hshown
    obtain ⟨way, hopen⟩ := failsOpen_of_shown f n x htext hshown
    refine ⟨way, hopen, ?_⟩
    intro other y hother
    rw [hother.way_eq, hopen.way_eq]

/-! ## A request for an interface -/

/-- Sends `/api/` to a backend. -/
def apiRule : Rule := ⟨.literal "/api/", "http://backend.test:5000", .none⟩

/-- A request for an item behind `/api/`. -/
def apiRequest : Request where
  method := "POST"
  url := ⟨"http", "", "", some (.name "localhost"), none, .segments ["api", "items"], none, none⟩
  headers := [("accept", .text "text/html")]
  context := .object []

def apiBase : Url :=
  ⟨"http", "", "", some (.name "backend.test"), some 5000, .segments [""], none, none⟩

theorem apiRequest_passesOn :
    PassesOn [apiRule] apiRequest apiRule apiBase
      { apiBase with path := .segments ["api", "items"] } := by
  refine ⟨?_, ?_, ?_⟩ <;> rfl

/-- A refused connection falls through to the next handler with one error line. -/
theorem refused_request_failsOpen :
    PassesOn [apiRule] apiRequest apiRule apiBase
      { apiBase with path := .segments ["api", "items"] } ∧
    ∃ way, FailsOpen [apiRule] (.each (.fail (.failure "refused" none)))
        (.respond ⟨404, [], .none⟩) apiRequest (.begin .empty) way
        (proxy [apiRule] (forwarder (.each (.fail (.failure "refused" none))))
          (handler (.respond ⟨404, [], .none⟩)) apiRequest (.begin .empty)) ∧
      ∀ other y, FailsOpen [apiRule] (.each (.fail (.failure "refused" none)))
        (.respond ⟨404, [], .none⟩) apiRequest (.begin .empty) other y → other = way := by
  have htext : apiRequest.headers.Textual := by
    intro field hfield n
    simp only [apiRequest, List.mem_singleton] at hfield
    simp [hfield]
  refine ⟨apiRequest_passesOn, (failsOpen_iff _ _ _ _ _ htext).mpr ?_⟩
  intro rule base url e _ hf
  cases hf
  simp [Thrown.message?]

/-- A thrown object whose member `toString` is a number has no text. -/
theorem unshown_value_does_not_failOpen :
    ¬ ∃ way, FailsOpen [apiRule] (.each (.fail (.value (.object [("toString", .number 1)]))))
      (.respond ⟨404, [], .none⟩) apiRequest (.begin .empty) way
      (proxy [apiRule] (forwarder (.each (.fail (.value (.object [("toString", .number 1)])))))
        (handler (.respond ⟨404, [], .none⟩)) apiRequest (.begin .empty)) := by
  rintro ⟨way, hopen⟩
  exact not_failsOpen_of_unshown _ _ _ apiRequest_passesOn rfl rfl way hopen

end Middleware

end Gateway
