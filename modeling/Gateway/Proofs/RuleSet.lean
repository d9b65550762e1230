import Gateway.Proofs.Pattern.EmptyAlternative
import Gateway.Rule

/- What becomes of a list of entries. An entry is left out exactly if the pattern of its
   rewrite does not compile, every other one gives a rule, and no entry keeps the set from
   being built (`ofEntries_firstMatch`). The one step that could still fail, counting the
   groups of a pattern that compiles, adds an empty alternative to it and does not fail
   (`compile_append_bar`). -/
namespace Gateway

open Gateway.Text (CodeUnit)

namespace RuleEntry

/-- The pattern of the rewrite, if that is a text with exactly one arrow. -/
def rewritePattern? (e : RuleEntry) : Option (List Char) :=
  match e.rewrite with
  | some (.text spec) =>
    match Text.pieces Rewrite.arrow spec.toList with
    | [pattern, _] => some (Text.trim pattern)
    | _ => none
  | _ => none

/-- Whether the rewrite is a text that is not empty and has not exactly one arrow. -/
def isMalformed (e : RuleEntry) : Bool :=
  match e.rewrite with
  | some (.text spec) => spec ≠ "" && (Text.pieces Rewrite.arrow spec.toList).length ≠ 2
  | _ => false

/-- The text of the rewrite. -/
def rewriteText (e : RuleEntry) : String :=
  match e.rewrite with
  | some (.text spec) => spec
  | _ => ""

/-- Why the entry is left out. -/
def fault? (e : RuleEntry) : Option RewriteError :=
  match e.rewritePattern? with
  | some source =>
    match Pattern.compile (Text.toUnits source) with
    | .error fault => some (.badPattern e.rewriteText (String.ofList source) fault)
    | .ok _ => none
  | none => none

/-- Whether the pattern of the rewrite compiles, if there is one. -/
def isKept (e : RuleEntry) : Bool := e.fault?.isNone

/-- The warning about a key that begins with a caret and does not compile. -/
def keyWarnings (e : RuleEntry) : Log :=
  if e.key.toList.head? = some '^' then
    match Pattern.compile (Text.toUnits e.key.toList) with
    | .error fault => [Selector.notPattern e.key fault]
    | .ok _ => []
  else []

/-- What is reported about the entry: that it is left out, or else what is wrong with the
    form of its rewrite and then with its key. -/
def warnings (e : RuleEntry) : Log :=
  match e.fault? with
  | some fault => [RuleSet.dropped e fault]
  | none =>
    (if e.isMalformed then [Rewrite.malformed e.rewriteText e.key] else []) ++ e.keyWarnings

/-- The rule of the entry, if it is kept and its rule is for the path. -/
def ruleFor? (e : RuleEntry) (path : String) : Option Rule :=
  match (Rule.ofEntry e).1 with
  | .ok rule => if rule.selects path then some rule else none
  | .error _ => none

end RuleEntry

/-! ## The rewrite of an entry -/

namespace Rewrite

/-- The groups of a pattern that compiles can be counted. -/
theorem exists_countGroups {units : List CodeUnit} {compiled : Pattern.Compiled}
    (h : Pattern.compile units = .ok compiled) : ∃ n, countGroups units = .ok n := by
  obtain ⟨b, -, -, hbar⟩ := Pattern.compile_append_bar h
  refine ⟨_, Pattern.map_eq_ok_iff.mpr ⟨_, hbar, rfl⟩⟩

theorem ofHalves_of_error {spec : String} {pattern replacement : List Char}
    {fault : Pattern.Fault}
    (h : Pattern.compile (Text.toUnits (Text.trim pattern)) = .error fault) :
    ofHalves spec pattern replacement =
      .error (.badPattern spec (String.ofList (Text.trim pattern)) fault) := by
  unfold ofHalves
  dsimp only
  rw [h]

theorem exists_ofHalves {spec : String} {pattern replacement : List Char}
    {compiled : Pattern.Compiled}
    (h : Pattern.compile (Text.toUnits (Text.trim pattern)) = .ok compiled) :
    ∃ n, ofHalves spec pattern replacement =
      .ok (.template compiled (String.ofList (Text.trim replacement)) n) := by
  obtain ⟨n, hn⟩ := exists_countGroups h
  refine ⟨n, ?_⟩
  unfold ofHalves
  dsimp only
  rw [h, hn]

/-- Reading the rewrite of an entry ends with the fault of the entry, and else with a
    rewrite and a warning if its form is not right. -/
theorem ofSetting_cases (e : RuleEntry) :
    (∃ spec source fault, e.fault? = some (.badPattern spec source fault) ∧
      ofSetting e.key e.rewrite = (.error (.badPattern spec source fault), [])) ∨
    (e.fault? = Option.none ∧ ∃ rewrite, ofSetting e.key e.rewrite =
      (.ok rewrite, if e.isMalformed then [malformed e.rewriteText e.key] else [])) := by
  obtain ⟨key, target, rewrite⟩ := e
  rcases rewrite with _ | ⟨on⟩ | ⟨spec⟩
  · exact .inr ⟨rfl, _, rfl⟩
  · exact .inr ⟨rfl, _, rfl⟩
  · by_cases hspec : spec = ""
    · subst hspec
      exact .inr ⟨rfl, _, rfl⟩
    · rcases hpieces : Text.pieces arrow spec.toList with
        _ | ⟨pattern, _ | ⟨replacement, _ | ⟨third, more⟩⟩⟩
      case cons.cons.nil =>
        cases hcompile : Pattern.compile (Text.toUnits (Text.trim pattern)) with
        | error fault =>
          left
          refine ⟨spec, String.ofList (Text.trim pattern), fault, ?_, ?_⟩
          · simp [RuleEntry.fault?, RuleEntry.rewritePattern?, RuleEntry.rewriteText, hpieces,
              hcompile]
          · simp [ofSetting, hspec, hpieces, ofHalves_of_error hcompile]
        | ok compiled =>
          obtain ⟨n, hn⟩ : ∃ n, ofHalves spec pattern replacement =
              .ok (.template compiled (String.ofList (Text.trim replacement)) n) :=
            exists_ofHalves hcompile
          right
          refine ⟨?_, .template compiled (String.ofList (Text.trim replacement)) n, ?_⟩
          · simp [RuleEntry.fault?, RuleEntry.rewritePattern?, hpieces, hcompile]
          · simp [ofSetting, RuleEntry.isMalformed, hspec, hpieces, hn]
      all_goals
        -- not exactly one arrow
        right
        refine ⟨by simp [RuleEntry.fault?, RuleEntry.rewritePattern?, hpieces], .none, ?_⟩
        simp [ofSetting, RuleEntry.isMalformed, RuleEntry.rewriteText, hspec, hpieces]

end Rewrite

/-! ## The rule of an entry -/

theorem Selector.ofKey_log (e : RuleEntry) : (Selector.ofKey e.key).2 = e.keyWarnings := by
  unfold Selector.ofKey RuleEntry.keyWarnings
  split
  · cases Pattern.compile (Text.toUnits e.key.toList) <;> rfl
  · rfl

/-- An entry gives a rule exactly if it is kept. -/
theorem Rule.ofEntry_cases (e : RuleEntry) :
    (e.isKept = false ∧ ∃ spec source fault,
      Rule.ofEntry e = (.error (.badPattern spec source fault), []) ∧
      e.warnings = [RuleSet.dropped e (.badPattern spec source fault)]) ∨
    (e.isKept = true ∧ ∃ rule, Rule.ofEntry e = (.ok rule, e.warnings)) := by
  unfold RuleEntry.isKept RuleEntry.warnings Rule.ofEntry
  rcases Rewrite.ofSetting_cases e with ⟨spec, source, fault, hfault, hset⟩ |
    ⟨hnone, rewrite, hset⟩
  · left
    rw [hfault, hset]
    exact ⟨rfl, spec, source, fault, rfl, rfl⟩
  · right
    rw [hnone, hset, ← Selector.ofKey_log]
    exact ⟨rfl, ⟨(Selector.ofKey e.key).1, e.target, rewrite⟩, rfl⟩

theorem RuleEntry.ruleFor?_of_ok {e : RuleEntry} {rule : Rule} {log : Log}
    (h : Rule.ofEntry e = (.ok rule, log)) (path : String) :
    e.ruleFor? path = if rule.selects path then some rule else none := by
  rw [RuleEntry.ruleFor?, h]

/-- An entry that is left out has no rule for any path. -/
theorem RuleEntry.ruleFor?_of_dropped {e : RuleEntry} (h : e.isKept = false) (path : String) :
    e.ruleFor? path = none := by
  rcases Rule.ofEntry_cases e with ⟨-, spec, source, fault, hentry, -⟩ | ⟨hkept, -⟩
  · rw [RuleEntry.ruleFor?, hentry]
  · exact absurd (h.symm.trans hkept) (by decide)

namespace RuleSet

/-! ## The rules of all entries -/

/-- Every list of entries gives a set of rules: those of the entries that are kept, with
    what is reported about each entry. -/
theorem exists_ofEntries (entries : List RuleEntry) :
    ∃ rules : RuleSet,
      ofEntries entries = (.ok rules, entries.flatMap RuleEntry.warnings) ∧
      (entries.filter RuleEntry.isKept).map (fun e => (Rule.ofEntry e).1) = rules.map .ok := by
  induction entries with
  | nil => exact ⟨[], rfl, rfl⟩
  | cons e rest ih =>
    obtain ⟨rules, hrest, hrules⟩ := ih
    rw [List.filter_cons, List.flatMap_cons, ofEntries, hrest]
    rcases Rule.ofEntry_cases e with ⟨hdropped, spec, source, fault, hentry, hwarnings⟩ |
      ⟨hkept, rule, hentry⟩
    · rw [hentry, hdropped, hwarnings]
      exact ⟨rules, rfl, hrules⟩
    · rw [if_pos hkept, List.map_cons, hrules, hentry]
      exact ⟨rule :: rules, rfl, rfl⟩

/-- The rule for a path is that of the first entry that has one for it. -/
theorem resolve_eq_findSome? {entries : List RuleEntry} {rules : RuleSet}
    (h : (entries.filter RuleEntry.isKept).map (fun e => (Rule.ofEntry e).1) = rules.map .ok)
    (path : String) : rules.resolve path = entries.findSome? fun e => e.ruleFor? path := by
  induction entries generalizing rules with
  | nil =>
    obtain rfl : rules = [] := by simpa using h.symm
    rfl
  | cons e rest ih =>
    rw [List.filter_cons] at h
    rw [List.findSome?_cons]
    rcases Rule.ofEntry_cases e with ⟨hdropped, -⟩ | ⟨hkept, rule, hentry⟩
    · rw [hdropped] at h
      rw [RuleEntry.ruleFor?_of_dropped hdropped]
      exact ih h
    · rw [if_pos hkept, List.map_cons, hentry] at h
      rw [RuleEntry.ruleFor?_of_ok hentry]
      rcases rules with _ | ⟨first, others⟩
      · cases h
      · obtain ⟨hfirst, hothers⟩ := List.cons.inj h
        obtain rfl : rule = first := Except.ok.inj hfirst
        rw [← ih hothers, resolve, List.find?_cons]
        cases rule.selects path <;> rfl

/-- Entries without a rule for a path, or behind one that has a rule for it, do not
    count. -/
theorem findSome?_cut {path : String} {front cut : List RuleEntry}
    (h : (∀ e ∈ cut, e.isKept = false ∨ e.ruleFor? path = none) ∨
      ∃ e ∈ front, e.ruleFor? path ≠ none) (back : List RuleEntry) :
    (front ++ cut ++ back).findSome? (fun e => e.ruleFor? path) =
      (front ++ back).findSome? fun e => e.ruleFor? path := by
  rw [List.append_assoc, List.findSome?_append, List.findSome?_append, List.findSome?_append]
  rcases h with hcut | ⟨e, he, hrule⟩
  · have hnone : cut.findSome? (fun e => e.ruleFor? path) = none :=
      List.findSome?_eq_none_iff.mpr fun e he =>
        (hcut e he).elim (fun hdropped => RuleEntry.ruleFor?_of_dropped hdropped path) id
    rw [hnone, Option.none_or]
  · cases hfront : front.findSome? fun e => e.ruleFor? path with
    | none => exact absurd (List.findSome?_eq_none_iff.mp hfront e he) hrule
    | some rule => rfl

/-- Every list of entries gives a set of rules. Its rules are those of the entries whose
    rewrite has no pattern that does not compile, in their order, and its log is what is
    reported about one entry after the other. For each path it gives the rule of the first
    entry that has one for the path, so entries that are left out, that are not for the path
    or that stand behind such an entry do not matter for it. -/
theorem ofEntries_firstMatch (entries : List RuleEntry) :
    ∃ rules : RuleSet,
      ofEntries entries = (.ok rules, entries.flatMap RuleEntry.warnings) ∧
      (entries.filter RuleEntry.isKept).map (fun e => (Rule.ofEntry e).1) = rules.map .ok ∧
      ∀ path : String,
        (∀ rule, rules.resolve path = some rule ↔
          ∃ front e back, entries = front ++ e :: back ∧ e.ruleFor? path = some rule ∧
            ∀ earlier ∈ front, earlier.ruleFor? path = none) ∧
        ∀ front cut back, entries = front ++ cut ++ back →
          ((∀ e ∈ cut, e.isKept = false ∨ e.ruleFor? path = none) ∨
            ∃ e ∈ front, e.ruleFor? path ≠ none) →
          ∃ others : RuleSet, (ofEntries (front ++ back)).1 = .ok others ∧
            others.resolve path = rules.resolve path := by
  obtain ⟨rules, hrules, hkept⟩ := exists_ofEntries entries
  refine ⟨rules, hrules, hkept, fun path => ⟨fun rule => ?_, fun front cut back hsplit hcut => ?_⟩⟩
  · rw [resolve_eq_findSome? hkept path, List.findSome?_eq_some_iff]
  · obtain ⟨others, hothers, hremaining⟩ := exists_ofEntries (front ++ back)
    refine ⟨others, by rw [hothers], ?_⟩
    rw [resolve_eq_findSome? hremaining path, resolve_eq_findSome? hkept path, hsplit,
      findSome?_cut hcut]

/-- An entry whose rewrite has a group that is not closed. -/
def unclosedEntry : RuleEntry := ⟨"/api/", "http://c.test", some (.text "( -> /x")⟩

/-- An entry that is for the same paths. -/
def apiEntry : RuleEntry := ⟨"/api/", "http://b.test", none⟩

/-- The first entry is left out with one warning and the second one decides. -/
theorem unclosedEntry_does_not_matter :
    unclosedEntry.isKept = false ∧ apiEntry.ruleFor? "/api/x" ≠ none ∧
    ∃ rules others : RuleSet,
      ofEntries [unclosedEntry, apiEntry] =
        (.ok rules, [dropped unclosedEntry (.badPattern "( -> /x" "(" .unterminatedGroup)]) ∧
      (ofEntries [apiEntry]).1 = .ok others ∧
      others.resolve "/api/x" = rules.resolve "/api/x" := by
  have hfault : unclosedEntry.fault? = some (.badPattern "( -> /x" "(" .unterminatedGroup) := by
    decide
  have hdropped : unclosedEntry.isKept = false := by rw [RuleEntry.isKept, hfault]; rfl
  have hwarnings : [unclosedEntry, apiEntry].flatMap RuleEntry.warnings =
      [dropped unclosedEntry (.badPattern "( -> /x" "(" .unterminatedGroup)] := by
    simp [RuleEntry.warnings, hfault, show apiEntry.fault? = none from rfl,
      show apiEntry.isMalformed = false from rfl, show apiEntry.keyWarnings = [] from rfl]
  obtain ⟨rules, hrules, -, hpath⟩ := ofEntries_firstMatch [unclosedEntry, apiEntry]
  obtain ⟨others, hothers, hsame⟩ :=
    (hpath "/api/x").2 [] [unclosedEntry] [apiEntry] rfl (.inl (by simp [hdropped]))
  exact ⟨hdropped, by decide, rules, others, by rw [hrules, hwarnings], hothers, hsame⟩

end RuleSet

end Gateway
