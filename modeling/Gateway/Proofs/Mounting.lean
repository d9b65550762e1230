import Gateway.Proofs.RequestPath
import Gateway.Proofs.Text.Pieces
import Gateway.Rule

/- Rules that show a target below a key. Such a rule takes its key off a path, and only in front
   (`rewritten_of_append`): the key ends with a slash, so what is left is a path without its first
   slash and is only given that slash again (`RequestPath.canonical_of_append`). So no two paths
   are asked for as one, and what is mounted below a key is what the target is asked for
   (`mounts_of_ofEntry`). -/
namespace Gateway
open RequestPath

/-- The path below a key that stands for a path. The slash in front is that of the key. -/
def RequestPath.mount (key path : String) : String := String.ofList (key.toList ++ path.toList.tail)

/-- A key that is read as a literal is that literal. -/
theorem Selector.eq_of_ofKey_eq_literal {key text : String} (h : (ofKey key).1 = .literal text) :
    text = key := by
  unfold ofKey at h
  split at h
  · split at h
    · cases h
    · exact (Selector.literal.inj h).symm
  · exact (Selector.literal.inj h).symm

namespace Rule

/-- The rule shows its target below a key. Paths are in canonical form. -/
structure Mounts (rule : Rule) (key : String) : Prop where
  /-- The key is taken off in front, and stays where else it occurs. -/
  stripped : ∀ path, normalize path = path → rule.selects path = true →
    (rule.rewritten path).toList = '/' :: path.toList.drop key.toList.length
  remounted : ∀ path, normalize path = path → rule.selects path = true →
    mount key (rule.rewritten path) = path
  injective : ∀ path other, normalize path = path → normalize other = other →
    rule.selects path = true → rule.selects other = true →
    rule.rewritten path = rule.rewritten other → path = other
  mounted : normalize key = key → ∀ path, normalize path = path →
    normalize (mount key path) = mount key path ∧ rule.selects (mount key path) = true ∧
      rule.rewritten (mount key path) = path

/-- A rule that takes a literal key off. -/
def below (key target : String) : Rule := ⟨.literal key, target, .stripKey key⟩

section
variable {key target : String}

theorem below_selects_iff {path : String} :
    (below key target).selects path = true ↔ key.toList <+: path.toList :=
  List.isPrefixOf_iff_prefix

variable (hslash : key.toList.getLast? = some '/')
include hslash

theorem rewritten_of_append {path : String} {rest : List Char} (hpath : normalize path = path)
    (hrest : key.toList ++ rest = path.toList) :
    ((below key target).rewritten path).toList = '/' :: rest := by
  have hkey : key.toList ≠ [] := by
    intro hempty
    rw [hempty] at hslash
    cases hslash
  have hcollapsed : IsCollapsed (key.toList ++ rest) := hrest ▸ isCollapsed_of_normalize hpath
  show (normalize (String.ofList (Text.removeFirst key.toList path.toList))).toList = _
  -- the key is not empty, so its first occurrence is the one in front
  rw [toList_normalize, String.toList_ofList, ← hrest, Text.removeFirst_of_prefix hkey,
    canonical_of_append hcollapsed hslash]

/-- A path is found again below the key. -/
theorem mount_rewritten {path : String} (hpath : normalize path = path)
    (hselects : (below key target).selects path = true) :
    mount key ((below key target).rewritten path) = path := by
  obtain ⟨rest, hrest⟩ := below_selects_iff.mp hselects
  rw [mount, rewritten_of_append hslash hpath hrest, List.tail_cons, hrest, String.ofList_toList]

/-- A path below a key in canonical form is in canonical form. -/
theorem normalize_mount (hkey : normalize key = key) {path : String}
    (hpath : normalize path = path) : normalize (mount key path) = mount key path := by
  have hcanonical : canonical key.toList = key.toList := by rw [← toList_normalize, hkey]
  obtain ⟨rest, hrest, -⟩ := canonical_eq_cons path.toList
  rw [← toList_normalize, hpath] at hrest
  have hcollapsed : IsCollapsed ('/' :: rest) := hrest ▸ isCollapsed_of_normalize hpath
  rw [← String.toList_inj, toList_normalize, mount, String.toList_ofList,
    canonical_append_of_getLast? hcanonical hslash, hrest, List.tail_cons, hcollapsed.collapse_eq,
    List.tail_cons]

theorem below_mounts : (below key target).Mounts key where
  stripped path hpath hselects := by
    obtain ⟨rest, hrest⟩ := below_selects_iff.mp hselects
    rw [rewritten_of_append hslash hpath hrest, ← hrest, List.drop_left]
  remounted path hpath hselects := mount_rewritten hslash hpath hselects
  injective path other hpath hother hselects hselects' hsame := by
    rw [← mount_rewritten hslash hpath hselects, hsame, mount_rewritten hslash hother hselects']
  mounted hkey path hpath := by
    have hlist : key.toList ++ path.toList.tail = (mount key path).toList := by
      rw [mount, String.toList_ofList]
    refine ⟨normalize_mount hslash hkey hpath, below_selects_iff.mpr ⟨_, hlist⟩, ?_⟩
    obtain ⟨rest, hrest, -⟩ := canonical_eq_cons path.toList
    rw [← toList_normalize, hpath] at hrest
    rw [← String.toList_inj, rewritten_of_append hslash (normalize_mount hslash hkey hpath) hlist,
      hrest, List.tail_cons]

end

theorem ofEntry_of_strip {entry : RuleEntry} (h : entry.rewrite = some (.flag true)) :
    ofEntry entry = (.ok ⟨(Selector.ofKey entry.key).1, entry.target, .stripKey entry.key⟩,
      (Selector.ofKey entry.key).2) := by
  rw [ofEntry, h]
  rfl

/-- A rule with a literal key that is to be taken off shows its target below that key, if the key
    ends with a slash. -/
theorem mounts_of_ofEntry {entry : RuleEntry} {rule : Rule} {log : Log} {text : String}
    (hrule : ofEntry entry = (.ok rule, log)) (hliteral : rule.selector = .literal text)
    (hstrip : entry.rewrite = some (.flag true)) (hslash : entry.key.toList.getLast? = some '/') :
    rule.Mounts entry.key := by
  obtain ⟨selector, target, rewrite⟩ := rule
  obtain rfl : selector = .literal text := hliteral
  rw [ofEntry_of_strip hstrip] at hrule
  obtain ⟨hselector, rfl, rfl⟩ := Rule.mk.inj (Except.ok.inj (Prod.mk.inj hrule).1)
  obtain rfl := Selector.eq_of_ofKey_eq_literal hselector
  exact below_mounts hslash

/-- A target behind a literal key. -/
def apiEntry : RuleEntry := ⟨"/api/", "http://b.test", some (.flag true)⟩

/-- The key stays where it occurs behind the front. -/
theorem apiEntry_mounts : ∃ rule, ofEntry apiEntry = (.ok rule, []) ∧
    rule.selector = .literal "/api/" ∧ rule.Mounts "/api/" ∧
    rule.rewritten "/api/x/api/y" = "/x/api/y" ∧ rule.rewritten "/api/api/x" = "/api/x" := by
  have hrule : ofEntry apiEntry = (.ok (below "/api/" "http://b.test"), []) := rfl
  have hmounts : (below "/api/" "http://b.test").Mounts "/api/" :=
    mounts_of_ofEntry hrule rfl rfl (by decide)
  refine ⟨_, hrule, rfl, hmounts, ?_, (hmounts.mounted (by decide) "/api/x" (by decide)).2.2⟩
  rw [← String.toList_inj]
  exact hmounts.stripped "/api/x/api/y" (by decide) (by decide)

end Rule

end Gateway
