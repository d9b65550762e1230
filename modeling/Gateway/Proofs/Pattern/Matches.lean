import Gateway.Proofs.Pattern.Ends

/- The matches of a pattern in an input. A search gives the leftmost match from a position on
   (`search_eq_some_iff`), a match lies in the input (`matchAt_bounds`), and so each search
   of a run begins behind the one before. The number of searches that a run is allowed is
   therefore never what ends it (`successive_successive`): behind the last match there is
   none. -/
namespace Gateway.Pattern

open Gateway.Text (CodeUnit)

/-- Where the search for the next match begins. -/
def Match.resume (m : Match) : Nat := if m.stop = m.start then m.stop + 1 else m.stop

theorem Match.stop_le_resume (m : Match) : m.stop ≤ m.resume := by
  unfold resume
  split <;> omega

namespace Compiled

variable {p : Compiled} {input : Array CodeUnit}

/-! ## One match -/

theorem matchAt_eq_head? (pos : Nat) :
    p.matchAt input pos =
      (((p.subject input).ends p.node false ⟨pos, List.replicate p.groups none⟩).head?).map
        fun s => ⟨pos, s.pos, s.captures⟩ := by
  rw [matchAt, Subject.run_eq_findSome?, findSome?_some]

theorem start_of_matchAt {pos : Nat} {m : Match} (h : p.matchAt input pos = some m) :
    m.start = pos := by
  obtain ⟨s, _, rfl⟩ := Option.map_eq_some_iff.mp h
  rfl

/-- A match ends behind its start and in the input. -/
theorem matchAt_bounds {pos : Nat} {m : Match} (h : p.matchAt input pos = some m)
    (hpos : pos ≤ input.size) : pos ≤ m.stop ∧ m.stop ≤ input.size := by
  rw [matchAt_eq_head?] at h
  obtain ⟨s, hs, rfl⟩ := Option.map_eq_some_iff.mp h
  have hforward := Subject.forward_of_mem_ends (List.mem_of_head? hs)
  exact ⟨hforward.1, hforward.2 hpos⟩

/-! ## The leftmost match -/

/-- The match is the leftmost one that starts at the position or later. -/
structure IsNext (p : Compiled) (input : Array CodeUnit) (pos : Nat) (m : Match) : Prop where
  found : p.matchAt input m.start = some m
  le_start : pos ≤ m.start
  start_le : m.start ≤ input.size
  leftmost : ∀ q, pos ≤ q → q < m.start → p.matchAt input q = none

theorem IsNext.start_le_stop {pos : Nat} {m : Match} (h : p.IsNext input pos m) :
    m.start ≤ m.stop := (matchAt_bounds h.found h.start_le).1

theorem IsNext.stop_le {pos : Nat} {m : Match} (h : p.IsNext input pos m) :
    m.stop ≤ input.size := (matchAt_bounds h.found h.start_le).2

theorem IsNext.lt_resume {pos : Nat} {m : Match} (h : p.IsNext input pos m) : pos < m.resume := by
  have hstart := h.le_start
  have hstop := h.start_le_stop
  unfold Match.resume
  split <;> omega

theorem searchFrom_eq_none_iff {n pos : Nat} :
    p.searchFrom input n pos = none ↔ ∀ q, pos ≤ q → q < pos + n → p.matchAt input q = none := by
  induction n generalizing pos with
  | zero =>
    refine ⟨fun _ q hle hlt => ?_, fun _ => rfl⟩
    omega
  | succ n ih =>
    rw [searchFrom]
    cases hm : p.matchAt input pos with
    | some m =>
      refine ⟨fun h => ?_, fun h => ?_⟩
      · cases h
      · rw [h pos (Nat.le_refl _) (by omega)] at hm
        cases hm
    | none =>
      dsimp only
      rw [ih]
      refine ⟨fun h q hle hlt => ?_, fun h q hle hlt => h q (by omega) (by omega)⟩
      rcases Nat.eq_or_lt_of_le hle with rfl | hgt
      · exact hm
      · exact h q hgt (by omega)

theorem searchFrom_eq_some {n pos : Nat} {m : Match} (h : p.searchFrom input n pos = some m) :
    p.matchAt input m.start = some m ∧ pos ≤ m.start ∧ m.start < pos + n ∧
      ∀ q, pos ≤ q → q < m.start → p.matchAt input q = none := by
  induction n generalizing pos with
  | zero => cases h
  | succ n ih =>
    rw [searchFrom] at h
    cases hm : p.matchAt input pos with
    | some found =>
      rw [hm] at h
      obtain rfl := Option.some.inj h
      have hstart := start_of_matchAt hm
      refine ⟨hstart ▸ hm, by omega, by omega, fun q hle hlt => ?_⟩
      omega
    | none =>
      rw [hm] at h
      obtain ⟨hfound, hle, hlt, hleft⟩ := ih h
      refine ⟨hfound, by omega, by omega, fun q hq hqm => ?_⟩
      rcases Nat.eq_or_lt_of_le hq with rfl | hgt
      · exact hm
      · exact hleft q hgt hqm

theorem search_eq_none_iff {pos : Nat} :
    p.search input pos = none ↔ ∀ q, pos ≤ q → q ≤ input.size → p.matchAt input q = none := by
  rw [search, searchFrom_eq_none_iff]
  refine forall_congr' fun q => forall_congr' fun hle => ?_
  have hrange : q < pos + (input.size + 1 - pos) ↔ q ≤ input.size := by omega
  rw [hrange]

theorem IsNext.unique {pos : Nat} {m m' : Match} (h : p.IsNext input pos m)
    (h' : p.IsNext input pos m') : m = m' := by
  -- neither starts before the other one
  rcases Nat.lt_trichotomy m.start m'.start with hlt | heq | hgt
  · exact absurd h.found (by rw [h'.leftmost _ h.le_start hlt]; simp)
  · exact Option.some.inj (h.found.symm.trans (heq ▸ h'.found))
  · exact absurd h'.found (by rw [h.leftmost _ h'.le_start hgt]; simp)

/-- A search gives the leftmost match. -/
theorem search_eq_some_iff {pos : Nat} {m : Match} :
    p.search input pos = some m ↔ p.IsNext input pos m := by
  have hnext {m : Match} (h : p.search input pos = some m) : p.IsNext input pos m := by
    obtain ⟨hfound, hle, hlt, hleft⟩ := searchFrom_eq_some h
    exact ⟨hfound, hle, by omega, hleft⟩
  refine ⟨hnext, fun h => ?_⟩
  cases hs : p.search input pos with
  | none =>
    have hnone := search_eq_none_iff.mp hs _ h.le_start h.start_le
    rw [h.found] at hnone
    cases hnone
  | some found => rw [h.unique (hnext hs)]

/-- There is a match anywhere exactly if there is one at some position. -/
theorem isMatch_iff : p.isMatch input = true ↔ ∃ q ≤ input.size, p.matchAt input q ≠ none := by
  rw [isMatch, Option.isSome_iff_ne_none, ne_eq, search_eq_none_iff]
  simp

/-! ## Successive matches -/

/-- The matches from a position on: each is the leftmost one from where the search after the
    one before begins, and behind the last one there is none. -/
inductive Successive (p : Compiled) (input : Array CodeUnit) : Nat → List Match → Prop
  | done {pos : Nat} (h : ∀ q, pos ≤ q → q ≤ input.size → p.matchAt input q = none) :
    Successive p input pos []
  | next {pos : Nat} {m : Match} {rest : List Match} (h : p.IsNext input pos m)
    (hrest : Successive p input m.resume rest) : Successive p input pos (m :: rest)

theorem successive_successive {n pos : Nat} (h : input.size < pos + n) :
    p.Successive input pos (p.successive input n pos) := by
  induction n generalizing pos with
  | zero =>
    refine .done fun q hle hsize => ?_
    omega
  | succ n ih =>
    rw [successive]
    cases hs : p.search input pos with
    | none => exact .done (search_eq_none_iff.mp hs)
    | some m =>
      have hnext := search_eq_some_iff.mp hs
      have hlt := hnext.lt_resume
      exact .next hnext (ih (by omega))

/-- All matches are found. -/
theorem successive_matchAll (p : Compiled) (input : Array CodeUnit) :
    p.Successive input 0 (p.matchAll input) :=
  successive_successive (by omega)

variable {pos : Nat} {matches' : List Match}

theorem Successive.unique {others : List Match} (h : p.Successive input pos matches')
    (h' : p.Successive input pos others) : matches' = others := by
  induction h generalizing others with
  | done hnone =>
    cases h' with
    | done _ => rfl
    | next hnext _ =>
      have hm := hnone _ hnext.le_start hnext.start_le
      rw [hnext.found] at hm
      cases hm
  | next hnext _ ih =>
    cases h' with
    | done hnone =>
      have hm := hnone _ hnext.le_start hnext.start_le
      rw [hnext.found] at hm
      cases hm
    | next hnext' hrest' =>
      obtain rfl := hnext.unique hnext'
      rw [ih hrest']

/-- A match at the start is the first of all. -/
theorem exists_matchAll_of_matchAt {m : Match} (h : p.matchAt input 0 = some m) :
    ∃ ms, p.matchAll input = m :: ms := by
  have hstart := start_of_matchAt h
  have hnext : p.IsNext input 0 m :=
    ⟨hstart ▸ h, Nat.zero_le _, by omega, fun q _ hq => by omega⟩
  have hrest : p.Successive input m.resume (p.successive input (input.size + 1) m.resume) :=
    successive_successive (by omega)
  exact ⟨_, (successive_matchAll p input).unique (.next hnext hrest)⟩

/-- Such a match starts at the position or later and lies in the input. -/
theorem Successive.bounds (h : p.Successive input pos matches') {m : Match} (hm : m ∈ matches') :
    pos ≤ m.start ∧ m.start ≤ m.stop ∧ m.stop ≤ input.size := by
  induction h with
  | done _ => cases hm
  | next hnext _ ih =>
    rcases List.mem_cons.mp hm with rfl | hm
    · exact ⟨hnext.le_start, hnext.start_le_stop, hnext.stop_le⟩
    · have hlt := hnext.lt_resume
      obtain ⟨hle, hrest⟩ := ih hm
      exact ⟨by omega, hrest⟩

/-- The matches do not overlap. -/
theorem Successive.pairwise (h : p.Successive input pos matches') :
    matches'.Pairwise fun m m' => m.stop ≤ m'.start := by
  induction h with
  | done _ => exact .nil
  | next _ hrest ih =>
    refine .cons (fun m' hm' => ?_) ih
    exact Nat.le_trans (Match.stop_le_resume _) (hrest.bounds hm').1

/-- There are no more of them than there are positions. -/
theorem Successive.length_le (h : p.Successive input pos matches') :
    matches'.length ≤ input.size + 1 - pos := by
  induction h with
  | done _ => exact Nat.zero_le _
  | next hnext _ ih =>
    have hlt := hnext.lt_resume
    have hsize := Nat.le_trans hnext.le_start hnext.start_le
    rw [List.length_cons]
    omega

end Compiled

end Gateway.Pattern
