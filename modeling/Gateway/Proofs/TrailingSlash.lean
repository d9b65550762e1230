import Gateway.Proofs.Pattern.EmptyAlternative
import Gateway.Proofs.Pattern.Matches
import Gateway.Rule

/- A pattern without its final slash. If what stands before the slash compiles, the slash was
   read as one more term of the last alternative (`compile_append_slash`), and a matcher that
   need not find it succeeds wherever it did with it (`isMatch_of_append_slash`). So a rule
   whose key is a pattern is for every path in which the pattern as configured is found, and
   for no other one if only the whole pattern compiles (`selects_widens`). -/
namespace Gateway

open Gateway.Text (CodeUnit)

namespace Pattern

/-! ## Nodes that match more often -/

/-- Where the wider node is not matched, neither is the other one. -/
def Subject.Widens (x : Subject) (node wider : Node) : Prop :=
  ∀ s, x.ends wider false s = [] → x.ends node false s = []

namespace Subject.Widens

variable {x : Subject} {node wider : Node} (h : x.Widens node wider)
include h

theorem seq (first : Node) : x.Widens (.seq first node) (.seq first wider) := by
  intro s hs
  exact List.flatMap_eq_nil_iff.mpr fun t ht => h t (List.flatMap_eq_nil_iff.mp hs t ht)

theorem alt (first : Node) : x.Widens (.alt first node) (.alt first wider) := by
  intro s hs
  obtain ⟨hfirst, hwider⟩ := List.append_eq_nil_iff.mp hs
  exact List.append_eq_nil_iff.mpr ⟨hfirst, h s hwider⟩

/-- Terms in front of both make no difference. -/
theorem sequence (terms : List Node) :
    x.Widens (terms.foldl (fun rest t => .seq t rest) node)
      (terms.foldl (fun rest t => .seq t rest) wider) := by
  induction terms generalizing node wider with
  | nil => exact h
  | cons t terms ih => exact ih (h.seq t)

theorem choice (closed : List Node) :
    x.Widens (Level.choice node closed) (Level.choice wider closed) := by
  induction closed generalizing node wider with
  | nil => exact h
  | cons a closed ih => exact ih (h.alt a)

end Subject.Widens

theorem Subject.widens_empty (x : Subject) (node : Node) : x.Widens node .empty :=
  fun _ h => absurd h (List.cons_ne_nil _ _)

theorem isMatch_of_widens {node wider : Node} {groups : Nat} {names : List (GroupName × Nat)}
    {input : Array CodeUnit} (h : Subject.Widens ⟨input, names⟩ node wider)
    (hmatch : Compiled.isMatch ⟨node, groups, names⟩ input = true) :
    Compiled.isMatch ⟨wider, groups, names⟩ input = true := by
  obtain ⟨q, hq, hfound⟩ := Compiled.isMatch_iff.mp hmatch
  refine Compiled.isMatch_iff.mpr ⟨q, hq, ?_⟩
  rw [Compiled.matchAt_eq_head?, ne_eq, Option.map_eq_none_iff, List.head?_eq_none_iff] at hfound ⊢
  exact fun hnone => hfound (h _ hnone)

/-! ## The slash at the end of a pattern -/

theorem tokensFrom_slash (census : Census) : tokensFrom census 0 [slash] = [.atom (.unit slash)] :=
  rfl

/-- If a text compiles, a slash behind it is one more term of its last alternative. -/
theorem compile_append_slash {source : List CodeUnit} {p whole : Compiled}
    (h : compile source = .ok p) (hwhole : compile (source ++ [slash]) = .ok whole) :
    ∃ b : Builder, p = ⟨b.level.node, b.groups, b.names⟩ ∧
      whole = ⟨(b.addAtom (.unit slash)).level.node, b.groups, b.names⟩ := by
  obtain ⟨b, hbuild, hfinish⟩ := bind_eq_ok_iff.mp h
  obtain ⟨-, -, rfl⟩ := finish_eq_ok_iff.mp hfinish
  obtain ⟨c, hbuild', hfinish'⟩ := bind_eq_ok_iff.mp hwhole
  rw [tokens_append_stop (.inr rfl) (bad_not_mem_of_build hbuild), tokensFrom_slash,
    Builder.build_append, hbuild] at hbuild'
  obtain rfl : b.addAtom (.unit slash) = c := Except.ok.inj hbuild'
  obtain ⟨-, -, rfl⟩ := finish_eq_ok_iff.mp hfinish'
  exact ⟨b, rfl, rfl⟩

/-- A pattern is found wherever it is found with a slash behind it. -/
theorem isMatch_of_append_slash {source : List CodeUnit} {p whole : Compiled}
    (h : compile source = .ok p) (hwhole : compile (source ++ [slash]) = .ok whole)
    {input : Array CodeUnit} (hmatch : whole.isMatch input = true) : p.isMatch input = true := by
  obtain ⟨b, rfl, rfl⟩ := compile_append_slash h hwhole
  have hempty : Subject.Widens ⟨input, b.names⟩ (.seq (.unit slash) .empty) .empty :=
    Subject.widens_empty _ _
  exact isMatch_of_widens ((hempty.sequence b.level.allTerms).choice b.level.closed) hmatch

end Pattern

/-! ## Rules -/

namespace Selector

theorem toUnits_slash : Text.toUnits ['/'] = [Pattern.slash] := rfl

/-- The pattern to match with is found wherever the one that is configured is. -/
theorem matcherOf_isMatch {source : List Char} {whole : Pattern.Compiled}
    (hwhole : Pattern.compile (Text.toUnits source) = .ok whole) {input : Array CodeUnit}
    (hmatch : whole.isMatch input = true) : (matcherOf source whole).isMatch input = true := by
  unfold matcherOf
  split
  · next hslash =>
    obtain ⟨front, rfl⟩ := List.getLast?_eq_some_iff.mp hslash
    rw [List.dropLast_concat]
    rw [Text.toUnits_append, toUnits_slash] at hwhole
    cases hshorter : Pattern.compile (Text.toUnits front) with
    | ok shorter => exact Pattern.isMatch_of_append_slash hshorter hwhole hmatch
    | error fault => exact hmatch
  · exact hmatch

theorem matcherOf_append_slash {source : List Char} {fault : Pattern.Fault}
    (h : Pattern.compile (Text.toUnits source) = .error fault) (whole : Pattern.Compiled) :
    matcherOf (source ++ ['/']) whole = whole := by
  simp [matcherOf, h]

theorem ofKey_of_compile {key : String} {whole : Pattern.Compiled}
    (hcaret : key.toList.head? = some '^')
    (hwhole : Pattern.compile (Text.toUnits key.toList) = .ok whole) :
    ofKey key = (.pattern key whole (matcherOf key.toList whole), []) := by
  rw [ofKey, if_pos hcaret, hwhole]

end Selector

namespace Rule

theorem selector_of_ofEntry {e : RuleEntry} {rule : Rule} {log : Log}
    (h : ofEntry e = (.ok rule, log)) : rule.selector = (Selector.ofKey e.key).1 := by
  unfold ofEntry at h
  split at h
  · simp at h
  · next hrewrite =>
    obtain rfl := Except.ok.inj (Prod.mk.inj h).1
    rfl

/-- A rule whose key is a pattern is for every path in which the pattern as configured is found.
    If it ends in a slash and does not compile without it, the rule is for no other path. The
    matcher of the rule is as wide over texts that are no paths. -/
theorem selects_widens {e : RuleEntry} {rule : Rule} {log : Log} {whole : Pattern.Compiled}
    (hcaret : e.key.toList.head? = some '^')
    (hwhole : Pattern.compile (Text.toUnits e.key.toList) = .ok whole)
    (hrule : ofEntry e = (.ok rule, log)) :
    (∀ path : String, whole.isMatch (Text.toUnits path.toList).toArray = true →
      rule.selects path = true) ∧
    (∀ source fault, e.key.toList = source ++ ['/'] →
      Pattern.compile (Text.toUnits source) = .error fault →
      ∀ path : String, rule.selects path = whole.isMatch (Text.toUnits path.toList).toArray) ∧
    ∃ matcher, rule.selector = .pattern e.key whole matcher ∧
      (∀ input, whole.isMatch input = true → matcher.isMatch input = true) ∧
      ∀ source fault, e.key.toList = source ++ ['/'] →
        Pattern.compile (Text.toUnits source) = .error fault → matcher = whole := by
  have hselector : rule.selector =
      .pattern e.key whole (Selector.matcherOf e.key.toList whole) := by
    rw [selector_of_ofEntry hrule, Selector.ofKey_of_compile hcaret hwhole]
  have hselects (path : String) : rule.selects path =
      (Selector.matcherOf e.key.toList whole).isMatch (Text.toUnits path.toList).toArray := by
    rw [selects, hselector, Selector.selects]
  refine ⟨fun path hmatch => ?_, fun source fault hkey hfault path => ?_, _, hselector,
    fun input hmatch => ?_, fun source fault hkey hfault => ?_⟩
  · rw [hselects]
    exact Selector.matcherOf_isMatch hwhole hmatch
  · rw [hselects, hkey, Selector.matcherOf_append_slash hfault]
  · exact Selector.matcherOf_isMatch hwhole hmatch
  · rw [hkey, Selector.matcherOf_append_slash hfault]

/-- The key ends in an escaped slash, and only a backslash would be left of that. -/
def escapedEntry : RuleEntry := ⟨"^/a\\/", "http://b.test", none⟩

/-- The pattern of that key. -/
def escapedKey : Pattern.Compiled :=
  ⟨.seq .atStart (.seq (.unit 0x2F) (.seq (.unit 0x61) (.seq (.unit 0x2F) .empty))), 0, []⟩

/-- The slash of such a key is asked for. -/
theorem escapedEntry_selects : ∃ rule, (ofEntry escapedEntry).1 = .ok rule ∧
    rule.selects "/a/b" = true ∧ rule.selects "/ab" = false := by
  have hwhole : Pattern.compile (Text.toUnits escapedEntry.key.toList) = .ok escapedKey := rfl
  have hshorter : Pattern.compile (Text.toUnits "^/a\\".toList) = .error .danglingEscape := rfl
  have hrule : ofEntry escapedEntry =
      (.ok ⟨.pattern "^/a\\/" escapedKey escapedKey, "http://b.test", .none⟩, []) := rfl
  obtain ⟨hwider, hexact, -⟩ := selects_widens rfl hwhole hrule
  refine ⟨_, rfl, hwider "/a/b" rfl, ?_⟩
  exact (hexact _ _ rfl hshorter "/ab").trans rfl

end Rule

end Gateway
