import Gateway.Proofs.Dispatch
import Gateway.Proofs.Mounting
import Gateway.Proofs.RuleSet
import Gateway.Proofs.TrailingSlash
import Gateway.Proofs.Transparent
import Gateway.Proofs.VerbatimTarget

/- Literal keys that no request can have in front of its path. All paths are looked up in canonical
   form, and a text stands in front of one of those exactly if it is in canonical form itself
   (`RequestPath.exists_prefix_iff`): the front of a text without doubled slashes has none. So a
   rule with any other literal key, such as a pattern that does not compile, is for no path, and the
   requests go where they would go without it (`literal_reached_iff`). -/
namespace Gateway

namespace RequestPath

/-- A text is in front of some path in canonical form exactly if it has that form. -/
theorem exists_prefix_iff {s : String} (hs : s ≠ "") :
    (∃ path, s.toList <+: (normalize path).toList) ↔ normalize s = s := by
  constructor
  · intro h
    obtain ⟨path, rest, hrest⟩ := h
    rw [toList_normalize] at hrest
    obtain ⟨tail, htail, -⟩ := canonical_eq_cons path.toList
    rw [normalize_eq_self_iff]
    constructor
    · have hne : s.toList ≠ [] := fun hnil => hs (String.toList_inj.mp hnil)
      obtain ⟨c, front, hfront⟩ := List.exists_cons_of_ne_nil hne
      rw [hfront, htail] at hrest
      obtain ⟨rfl, -⟩ := List.cons.inj hrest
      rw [hfront]
      rfl
    · intro hdouble
      refine isCollapsed_iff.mp (isCollapsed_canonical path.toList) ?_
      rw [← hrest]
      exact hdouble.trans (List.prefix_append _ rest).isInfix
  · intro h
    exact ⟨s, by rw [h]⟩

end RequestPath

open RequestPath

/-! ## Rules for no path -/

/-- No path in canonical form belongs to the rule. -/
def Rule.IsDead (rule : Rule) : Prop := ∀ path, rule.selects (normalize path) = false

theorem Selector.literal_iff (key : String) :
    (∃ text, (ofKey key).1 = .literal text) ↔ key.toList.head? ≠ some '^' ∨
      ∃ fault, Pattern.compile (Text.toUnits key.toList) = .error fault := by
  unfold ofKey
  split
  · next hcaret =>
    cases hcompile : Pattern.compile (Text.toUnits key.toList) with
    | ok whole => simp [hcaret]
    | error fault => simp
  · next hcaret => simp [hcaret]

section
variable {entry : RuleEntry} {rule : Rule} {log : Log}

/-- An entry gives a rule with a literal key exactly if its key does not begin like a pattern or is
    none. -/
theorem Rule.literal_iff (hrule : ofEntry entry = (.ok rule, log)) :
    (∃ text, rule.selector = .literal text) ↔ entry.key.toList.head? ≠ some '^' ∨
      ∃ fault, Pattern.compile (Text.toUnits entry.key.toList) = .error fault := by
  rw [selector_of_ofEntry hrule]
  exact Selector.literal_iff entry.key

theorem Rule.selects_literal_iff {text : String} (hrule : ofEntry entry = (.ok rule, log))
    (hliteral : rule.selector = .literal text) (path : String) :
    rule.selects path = true ↔ entry.key.toList <+: path.toList := by
  have hkey : text = entry.key := by
    rw [selector_of_ofEntry hrule] at hliteral
    exact Selector.eq_of_ofKey_eq_literal hliteral
  rw [selects, hliteral, hkey, Selector.selects, List.isPrefixOf_iff_prefix]

/-- A dead rule is chosen for no request. -/
theorem RuleEntry.ruleFor?_of_isDead (hrule : Rule.ofEntry entry = (.ok rule, log))
    (hdead : rule.IsDead) (path : String) : entry.ruleFor? (normalize path) = none := by
  rw [ruleFor?_of_ok hrule, hdead path]
  rfl

end

/-! ## Requests without them -/

/-- Only the choice of a rule matters to the stage. -/
theorem Middleware.proxy_congr {rules others : RuleSet}
    (h : ∀ path, rules.resolve (normalize path) = others.resolve (normalize path))
    (forward : Forwarder) (next : Handler) :
    proxy rules forward next = proxy others forward next := by
  funext request
  simp only [proxy, h]

/-- The requests go where they go without an entry whose rule is dead. -/
theorem RuleSet.proxy_without_dead {entry : RuleEntry} {rule : Rule} {log : Log}
    (hrule : Rule.ofEntry entry = (.ok rule, log)) (hdead : rule.IsDead)
    (front back : List RuleEntry) :
    ∃ rules others : RuleSet, (ofEntries (front ++ entry :: back)).1 = .ok rules ∧
      (ofEntries (front ++ back)).1 = .ok others ∧
      ∀ forward next,
        Middleware.proxy rules forward next = Middleware.proxy others forward next := by
  obtain ⟨rules, hrules, hkept⟩ := exists_ofEntries (front ++ entry :: back)
  obtain ⟨others, hothers, hremaining⟩ := exists_ofEntries (front ++ back)
  refine ⟨rules, others, by rw [hrules], by rw [hothers], ?_⟩
  apply Middleware.proxy_congr
  intro path
  have hcut : ∀ e ∈ [entry], e.isKept = false ∨ e.ruleFor? (normalize path) = none := by
    intro e he
    obtain rfl := List.mem_singleton.mp he
    exact .inr (RuleEntry.ruleFor?_of_isDead hrule hdead path)
  have hsame : (front ++ [entry] ++ back).findSome? (fun e => e.ruleFor? (normalize path)) =
      (front ++ back).findSome? fun e => e.ruleFor? (normalize path) :=
    findSome?_cut (.inl hcut) back
  rw [List.append_assoc, List.singleton_append] at hsame
  rw [resolve_eq_findSome? hkept, resolve_eq_findSome? hremaining, hsame]

/-! ## Requests with them -/

/-- The URL of a server, with nothing behind its host. -/
def localServer : Url :=
  ⟨"http", "", "", some (.name "localhost"), none, .segments [""], none, none⟩

/-- A key in canonical form that a URL keeps as it is written is the path of a URL. -/
theorem exists_parsed_of_verbatim {key : String} (hkey : normalize key = key)
    (hverbatim : Url.IsVerbatimPath key.toList) : ∃ u, Url.Parsed u ∧ u.pathname = key := by
  have hserver : Url.Parsed localServer := .alone (s := "http://localhost") (by decide)
  have hweb : localServer.IsWeb := .inl rfl
  have hsettled : Url.Settled localServer := hserver.settled hweb.isHierarchic
  obtain ⟨u, -, hparse, -, -, -, -, -, hpath⟩ :=
    parse?_normalize hverbatim.isPathText hweb hsettled
  refine ⟨u, .relative hserver hparse, ?_⟩
  rw [hpath hverbatim.areResolved, hkey]

/-- A rule whose key is a literal is for the canonical form of some path exactly if its key is in
    canonical form: if it begins with a slash and has no doubled one. A rule with any other literal
    key, such as a pattern that does not compile, is for no request, and wherever its entry stands
    the requests go where they go without it. A key that is in canonical form and that a URL keeps
    as it is written is reached by a request. -/
theorem Rule.literal_reached_iff {entry : RuleEntry} {rule : Rule} {log : Log}
    (hrule : ofEntry entry = (.ok rule, log)) (hkey : entry.key ≠ "") :
    ((∃ text, rule.selector = .literal text) ↔ entry.key.toList.head? ≠ some '^' ∨
      ∃ fault, Pattern.compile (Text.toUnits entry.key.toList) = .error fault) ∧
    ∀ text, rule.selector = .literal text →
      ((∃ path, rule.selects (normalize path) = true) ↔ normalize entry.key = entry.key) ∧
      (normalize entry.key = entry.key ↔
        entry.key.toList.head? = some '/' ∧ ¬['/', '/'] <:+: entry.key.toList) ∧
      (normalize entry.key ≠ entry.key →
        (∀ request : Request, rule.selects request.canonicalPath = false) ∧
        ∀ front back : List RuleEntry, ∃ rules others : RuleSet,
          (RuleSet.ofEntries (front ++ entry :: back)).1 = .ok rules ∧
          (RuleSet.ofEntries (front ++ back)).1 = .ok others ∧
          ∀ forward next,
            Middleware.proxy rules forward next = Middleware.proxy others forward next) ∧
      (normalize entry.key = entry.key → Url.IsVerbatimPath entry.key.toList →
        ∃ request : Request, Url.Parsed request.url ∧
          rule.selects request.canonicalPath = true) := by
  refine ⟨literal_iff hrule, ?_⟩
  intro text hliteral
  have hreached : (∃ path, rule.selects (normalize path) = true) ↔
      normalize entry.key = entry.key := by
    simp only [selects_literal_iff hrule hliteral]
    exact exists_prefix_iff hkey
  refine ⟨hreached, normalize_eq_self_iff, ?_, ?_⟩
  · intro hother
    have hdead : rule.IsDead := by
      intro path
      rw [← Bool.not_eq_true]
      intro hselects
      exact hother (hreached.mp ⟨path, hselects⟩)
    exact ⟨fun request => hdead request.url.pathname, RuleSet.proxy_without_dead hrule hdead⟩
  · intro hcanonical hverbatim
    obtain ⟨u, hparsed, hpath⟩ := exists_parsed_of_verbatim hcanonical hverbatim
    refine ⟨⟨"GET", u, [], .object []⟩, hparsed, ?_⟩
    rw [selects_literal_iff hrule hliteral, Request.canonicalPath, hpath, hcanonical]

/-- A key that begins like a pattern and has a group that is not closed. -/
def unclosedKey : RuleEntry := ⟨"^/api(/", "http://b.test", none⟩

/-- A key with a directory below the root. -/
def nestedKey : RuleEntry := ⟨"/api/v1/", "http://b.test", none⟩

/-- The first key keeps no request from any rule behind it, and the second one is reached. -/
theorem unclosedKey_not_reached :
    (∃ rule log, Rule.ofEntry unclosedKey = (.ok rule, log) ∧
      (∀ request : Request, rule.selects request.canonicalPath = false) ∧
      ∃ rules others : RuleSet,
        (RuleSet.ofEntries ([] ++ unclosedKey :: [nestedKey])).1 = .ok rules ∧
        (RuleSet.ofEntries ([] ++ [nestedKey])).1 = .ok others ∧
        ∀ forward next,
          Middleware.proxy rules forward next = Middleware.proxy others forward next) ∧
    ∃ rule, Rule.ofEntry nestedKey = (.ok rule, []) ∧
      ∃ request : Request, Url.Parsed request.url ∧ rule.selects request.canonicalPath = true := by
  constructor
  · have hrule : Rule.ofEntry unclosedKey = (.ok ⟨.literal "^/api(/", "http://b.test", .none⟩,
        [Selector.notPattern "^/api(/" .unterminatedGroup]) := rfl
    obtain ⟨-, hkey⟩ := Rule.literal_reached_iff hrule (by decide)
    obtain ⟨-, -, hdead, -⟩ := hkey _ rfl
    obtain ⟨hnone, hsets⟩ := hdead (by decide)
    exact ⟨_, _, hrule, hnone, hsets [] [nestedKey]⟩
  · have hchars : (nestedKey.key.toList.all fun c => !Url.inPathSet c && c != '\\') = true := by
      decide
    have hverbatim : Url.IsVerbatimPath nestedKey.key.toList :=
      ⟨by decide, fun c hc => by simpa using List.all_eq_true.mp hchars c hc, by decide⟩
    have hrule : Rule.ofEntry nestedKey = (.ok ⟨.literal "/api/v1/", "http://b.test", .none⟩, []) :=
      rfl
    obtain ⟨-, hkey⟩ := Rule.literal_reached_iff hrule (by decide)
    obtain ⟨-, -, -, hreached⟩ := hkey _ rfl
    exact ⟨_, hrule, hreached (by decide) hverbatim⟩

end Gateway
