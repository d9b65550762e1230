import Gateway.Proofs.Dispatch
import Gateway.Proofs.RequestPath
import Gateway.Proofs.Url.Rooted

/- Where the proxy stage sends a request. The scheme is always that of the target. The
   rewritten path is resolved as a text relative to the target, and a path in canonical
   form may still be read as an authority: canonical form drops the second of two slashes,
   but not a backslash, nor a slash behind a tab or a line end. The request leaves its
   target exactly if that happens and another authority is named
   (`forwarded_to_target_iff`). -/
namespace Gateway

/-- A path in canonical form is read as an authority only because of a backslash, or of
    something that is ignored. -/
theorem RequestPath.opensAuthority_normalize {path : String}
    (h : ∀ c ∈ (normalize path).toList, c ≠ '\\' ∧ Url.isDropped c = false) :
    Url.opensAuthority (normalize path) = false := by
  obtain ⟨rest, hrest, hhead⟩ := canonical_eq_cons path.toList
  rw [toList_normalize, hrest] at h
  unfold Url.opensAuthority
  rw [toList_normalize, hrest, List.tail_cons]
  cases rest with
  | nil => rfl
  | cons c more =>
    obtain ⟨hback, hkept⟩ := h c (List.mem_cons_of_mem _ List.mem_cons_self)
    have hslash : c ≠ '/' := fun hc => hhead (by rw [hc]; rfl)
    simp [hkept, Url.isSlash, hslash, hback]

namespace Middleware
open Scripted

section
variable {rules : RuleSet} {request : Request} {rule : Rule} {base url : Url}

/-- The target of a request that is passed on is settled if it is a server's. -/
theorem PassesOn.base_settled (h : PassesOn rules request rule base url) (hweb : base.IsWeb) :
    Url.Settled base :=
  (Url.Parsed.alone h.target).settled hweb.isHierarchic

/-- A request is passed on with the scheme of the target. Its authority is the one that the
    rewritten path names, if it is read so, and else that of the target. -/
theorem PassesOn.authority (h : PassesOn rules request rule base url) (hweb : base.IsWeb) :
    url.scheme = base.scheme ∧
      if Url.opensAuthority (rule.rewritten request.canonicalPath) then
        Url.readAuthority base.scheme
          (Url.namedAuthority (rule.rewritten request.canonicalPath)) = some (Url.authorityOf url)
      else Url.authorityOf url = Url.authorityOf base := by
  obtain ⟨_, resolved, hparse, hurl⟩ := outbound?_eq_some_iff.mp h.outbound
  obtain ⟨rest, hrest, _⟩ :=
    RequestPath.canonical_eq_cons (rule.rewrite.apply request.canonicalPath).toList
  have hrooted : (rule.rewritten request.canonicalPath).toList = '/' :: rest := by
    rw [Rule.rewritten, RequestPath.toList_normalize, hrest]
  obtain ⟨hscheme, hauthority⟩ :=
    Url.parse?_rooted_authority hrooted hweb.isHierarchic (h.base_settled hweb) hparse
  -- the query that may be added changes neither
  have hsame : url.scheme = resolved.scheme ∧ Url.authorityOf url = Url.authorityOf resolved := by
    subst hurl
    split <;> simp
  rw [hsame.1, hsame.2]
  exact ⟨hscheme, hauthority⟩

end

/-- What is forwarded has the scheme of the target. It has the authority of the target too,
    unless the rewritten path is read as another one. -/
theorem forwarded_to_target_iff (rules : RuleSet) (f : ForwardScript) (n : Script)
    (request : Request) (inbound : Stream) {base : Url} {r : Request} (hweb : base.IsWeb)
    (h : Event.forwarded base (some r) ∈
      (proxy rules (forwarder f) (handler n) request (.begin inbound)).2.journal) :
    ∃ rule, rules.resolve request.canonicalPath = some rule ∧
      Url.ofText? rule.target = some base ∧ r.url.scheme = base.scheme ∧
      (Url.authorityOf r.url = Url.authorityOf base ↔
        (Url.opensAuthority (rule.rewritten request.canonicalPath) = true →
          Url.readAuthority base.scheme
            (Url.namedAuthority (rule.rewritten request.canonicalPath)) =
              some (Url.authorityOf base))) := by
  obtain ⟨rule, url, hon, rfl⟩ := passesOn_of_forwarded f n h
  obtain ⟨hscheme, hauthority⟩ := hon.authority hweb
  refine ⟨rule, hon.chosen, hon.target, hscheme, ?_⟩
  show Url.authorityOf url = Url.authorityOf base ↔ _
  -- if no authority is read, there is nothing to decide
  split at hauthority
  · next hopens =>
    constructor
    · intro hsame _
      rw [← hsame]
      exact hauthority
    · intro hnamed
      exact Option.some.inj (hauthority.symm.trans (hnamed hopens))
  · next hopens =>
    constructor
    · intro _ hopens'
      exact absurd hopens' hopens
    · intro _
      exact hauthority

/-- A request for an item behind `/api/` arrives at the target. -/
theorem api_forwarded_to_target :
    Event.forwarded apiBase (some (apiRequest.withUrl
      { apiBase with path := .segments ["api", "items"] })) ∈
        (proxy [apiRule] (forwarder (.each (.respond ⟨200, [], .none⟩)))
          (handler (.respond ⟨404, [], .none⟩)) apiRequest (.begin .empty)).2.journal ∧
    Url.authorityOf { apiBase with path := .segments ["api", "items"] } =
      Url.authorityOf apiBase := by
  have hmem := forwarded_of_passesOn (.respond ⟨404, [], .none⟩) (.begin .empty)
    (.respond ⟨200, [], .none⟩) apiRequest_passesOn
  refine ⟨hmem, ?_⟩
  obtain ⟨rule, hrule, _, _, hiff⟩ :=
    forwarded_to_target_iff [apiRule] _ _ apiRequest .empty (.inl rfl) hmem
  obtain rfl : apiRule = rule := Option.some.inj (hrule.symm.trans rfl).symm
  exact hiff.mpr fun hopens => absurd hopens (by decide +kernel)

/-- Sends every path to a backend. -/
def everyRule : Rule := ⟨.literal "/", "http://backend.test:5000", .none⟩

/-- A request whose path keeps a backslash, since its scheme is of no server. -/
def backslashRequest : Request where
  method := "GET"
  url := ⟨"custom", "", "", some (.other "h"), none, .segments ["\\evil.test", "x"], none, none⟩
  headers := []
  context := .object []

/-- The backslash sends the request to another host. -/
theorem backslash_leaves_target :
    ¬ ∀ base r, Event.forwarded base (some r) ∈
      (proxy [everyRule] (forwarder (.each (.respond ⟨200, [], .none⟩)))
        (handler (.respond ⟨404, [], .none⟩)) backslashRequest (.begin .empty)).2.journal →
      Url.authorityOf r.url = Url.authorityOf base := by
  intro h
  have hon : PassesOn [everyRule] backslashRequest everyRule apiBase
      ⟨"http", "", "", some (.name "evil.test"), none, .segments ["x"], none, none⟩ := by
    refine ⟨?_, ?_, ?_⟩ <;> rfl
  have hleft := h _ _ (forwarded_of_passesOn _ _ (.respond ⟨200, [], .none⟩) hon)
  exact absurd hleft (by decide)

end Middleware

end Gateway
