import Gateway.Proofs.RuleSet
import Gateway.Proofs.Text.Pieces

/- How the text of a rewrite is read. What counts is how often its arrow stands in it: the arrow
   does not overlap itself, so cutting at it gives one piece more than there are arrows
   (`Text.length_pieces`), and a text with one arrow is cut into what stands on both sides of it,
   whatever characters meet there (`Text.pieces_append_append`). A text with one arrow is a template
   or, if what stands before the arrow is no pattern, a fault; every other text is ignored with one
   warning (`ofSetting_reads_single_arrow`). -/
namespace Gateway

namespace Text

/-- How often `part` stands in `s`, overlaps included. -/
def occurrences {α : Type} [BEq α] (part s : List α) : Nat :=
  s.tails.countP fun rest => part.isPrefixOf rest

section
variable {α : Type} [BEq α] [LawfulBEq α] {c : α} {sep s : List α}

theorem occurrences_cons_found {part : List α} {a : α} (h : part <+: a :: s) :
    occurrences part (a :: s) = occurrences part s + 1 := by
  rw [occurrences, List.tails_cons]
  exact List.countP_cons_of_pos (List.isPrefixOf_iff_prefix.mpr h)

theorem occurrences_cons_other {part : List α} {a : α} (h : ¬part <+: a :: s) :
    occurrences part (a :: s) = occurrences part s := by
  rw [occurrences, List.tails_cons]
  exact List.countP_cons_of_neg (mt List.isPrefixOf_iff_prefix.mp h)

omit [LawfulBEq α] in
theorem occurrences_nil (h : sep ≠ []) : occurrences sep [] = 0 := by
  obtain ⟨a, rest, rfl⟩ := List.exists_cons_of_ne_nil h
  rfl

theorem occurrences_eq_zero_iff (h : sep ≠ []) : occurrences sep s = 0 ↔ ¬sep <:+: s := by
  induction s with
  | nil =>
    have hnil : ¬sep <:+: [] := fun hinfix => h (List.infix_nil.mp hinfix)
    exact iff_of_true (occurrences_nil h) hnil
  | cons a rest ih =>
    rw [List.infix_cons_iff, not_or]
    by_cases hprefix : sep <+: a :: rest
    · rw [occurrences_cons_found hprefix]
      exact iff_of_false (Nat.succ_ne_zero _) fun hboth => hboth.1 hprefix
    · rw [occurrences_cons_other hprefix, ih]
      exact (and_iff_right hprefix).symm

/-- A text without the first element of `sep` has no part in any occurrence. -/
theorem occurrences_append_of_not_mem {t : List α} (h : c ∉ t) :
    occurrences (c :: sep) (t ++ s) = occurrences (c :: sep) s := by
  induction t with
  | nil => rfl
  | cons a t ih =>
    have hne : ¬(c :: sep) <+: a :: (t ++ s) := by
      intro hprefix
      obtain ⟨rfl, -⟩ := List.cons_prefix_cons.mp hprefix
      exact h List.mem_cons_self
    rw [List.cons_append, occurrences_cons_other hne]
    exact ih fun hmem => h (List.mem_cons_of_mem a hmem)

/-! The first element of the separator does not stand in it again, so no two of its occurrences
    overlap. -/

variable (hsep : c ∉ sep)
include hsep

/-- Cutting gives one piece more than there are occurrences. -/
theorem length_pieces (s : List α) :
    (pieces (c :: sep) s).length = occurrences (c :: sep) s + 1 := by
  have hne := List.cons_ne_nil c sep
  induction s using cut_induction hne with
  | nil => rfl
  | found s ih =>
    have hprefix : c :: sep <+: c :: (sep ++ s) := List.prefix_append (c :: sep) s
    rw [pieces_append_self hne, List.length_cons, ih, List.cons_append,
      occurrences_cons_found hprefix, occurrences_append_of_not_mem hsep]
  | other a s hother ih =>
    have hpieces : pieces (c :: sep) s ≠ [] := splitFrom_ne_nil (c :: sep) 0 s
    rw [pieces_cons hother, occurrences_cons_other hother, ← ih,
      consPiece_eq_modifyHead a hpieces, List.length_modifyHead]

omit [BEq α] [LawfulBEq α] in
/-- An occurrence that begins before the separator ends before it. -/
theorem prefix_of_prefix_append {p : List α} (hp : p ≠ []) (h : c :: sep <+: p ++ (c :: sep ++ s)) :
    c :: sep <+: p := by
  have hfront : p <+: p ++ (c :: sep ++ s) := List.prefix_append _ _
  rcases List.prefix_or_prefix_of_prefix h hfront with hin | hover
  · exact hin
  · -- `p` would end inside of the occurrence, and `c` follow there
    obtain ⟨rest, hrest⟩ := hover
    cases rest with
    | nil => rw [← hrest, List.append_nil]
    | cons b rest =>
      have hshorter : p ++ b :: rest <+: p ++ (c :: sep ++ s) := by rwa [hrest]
      obtain ⟨rfl, -⟩ := List.cons_prefix_cons.mp ((List.prefix_append_right_inj p).mp hshorter)
      obtain ⟨a, p, rfl⟩ := List.exists_cons_of_ne_nil hp
      obtain ⟨-, htail⟩ := List.cons.inj hrest
      have hmem : b ∈ p ++ b :: rest := List.mem_append_right p List.mem_cons_self
      exact absurd (htail ▸ hmem) hsep

/-- What stands before the first occurrence is the first piece, whatever it ends with. -/
theorem pieces_append_append {p : List α} (hp : ¬c :: sep <:+: p) (s : List α) :
    pieces (c :: sep) (p ++ (c :: sep ++ s)) = p :: pieces (c :: sep) s := by
  induction p with
  | nil => exact pieces_append_self (List.cons_ne_nil c sep) s
  | cons a p ih =>
    rw [List.infix_cons_iff, not_or] at hp
    have hother : ¬c :: sep <+: a :: (p ++ (c :: sep ++ s)) := by
      intro hprefix
      exact hp.1 (prefix_of_prefix_append hsep (List.cons_ne_nil a p) hprefix)
    rw [List.cons_append, pieces_cons hother, ih hp.2]
    rfl

omit hsep in
theorem pieces_of_not_infix (h : ¬sep <:+: s) : pieces sep s = [s] := by
  induction s with
  | nil => rfl
  | cons a rest ih =>
    rw [List.infix_cons_iff, not_or] at h
    rw [pieces_cons h.1, ih h.2]
    rfl

omit hsep in
/-- The pieces make up the text. -/
theorem intercalate_pieces (h : sep ≠ []) (s : List α) : sep.intercalate (pieces sep s) = s := by
  induction s using cut_induction h with
  | nil => exact replaceAll_nil sep sep
  | found s ih =>
    rw [← replaceAll] at ih ⊢
    rw [replaceAll_append h, ih]
  | other a s hother ih =>
    rw [← replaceAll] at ih ⊢
    rw [replaceAll_cons hother, ih]

/-- The occurrences on both sides of a separator, and itself. -/
theorem occurrences_append_append (p s : List α) :
    occurrences (c :: sep) (p ++ (c :: sep ++ s)) =
      occurrences (c :: sep) p + occurrences (c :: sep) s + 1 := by
  induction p with
  | nil =>
    have hprefix : c :: sep <+: c :: (sep ++ s) := List.prefix_append (c :: sep) s
    rw [List.nil_append, List.cons_append, occurrences_cons_found hprefix,
      occurrences_append_of_not_mem hsep, occurrences_nil (List.cons_ne_nil c sep), Nat.zero_add]
  | cons a p ih =>
    by_cases hprefix : c :: sep <+: a :: p
    · have hlonger : c :: sep <+: a :: (p ++ (c :: sep ++ s)) :=
        hprefix.trans (List.prefix_append (a :: p) _)
      rw [List.cons_append, occurrences_cons_found hlonger, occurrences_cons_found hprefix, ih]
      omega
    · have hlonger : ¬c :: sep <+: a :: (p ++ (c :: sep ++ s)) := by
        intro h
        exact hprefix (prefix_of_prefix_append hsep (List.cons_ne_nil a p) h)
      rw [List.cons_append, occurrences_cons_other hlonger,
        occurrences_cons_other hprefix, ih]

/-- A text with one occurrence is what stands before it and behind it. -/
theorem exists_split_of_occurrences (h : occurrences (c :: sep) s = 1) :
    ∃ p t, s = p ++ (c :: sep ++ t) := by
  have hlength := length_pieces hsep s
  have htext := intercalate_pieces (List.cons_ne_nil c sep) s
  rw [h] at hlength
  obtain ⟨p, t, hpair⟩ := List.length_eq_two.mp hlength
  refine ⟨p, t, ?_⟩
  rw [← htext, hpair, List.intercalate_cons_cons, List.intercalate_singleton, List.append_assoc]

/-- Both sides of an occurrence are without another one exactly if there is no other one. -/
theorem occurrences_split_eq_one_iff {p t : List α} :
    occurrences (c :: sep) (p ++ (c :: sep ++ t)) = 1 ↔ ¬c :: sep <:+: p ∧ ¬c :: sep <:+: t := by
  have hne := List.cons_ne_nil c sep
  rw [occurrences_append_append hsep, ← occurrences_eq_zero_iff hne, ← occurrences_eq_zero_iff hne]
  omega

end

end Text

namespace Rewrite
open Text (trim toUnits occurrences)

/-- One arrow stands in the text, behind `before` and in front of `after`. -/
structure HasOneArrow (spec : String) (before after : List Char) : Prop where
  text : spec.toList = before ++ (arrow ++ after)
  once : occurrences arrow spec.toList = 1

theorem arrow_head_not_mem : '-' ∉ ['>'] := by decide

theorem hasOneArrow_iff {spec : String} {before after : List Char} :
    HasOneArrow spec before after ↔ spec.toList = before ++ (arrow ++ after) ∧
      ¬arrow <:+: before ∧ ¬arrow <:+: after := by
  constructor
  · intro h
    have honce := h.once
    rw [h.text] at honce
    exact ⟨h.text, (Text.occurrences_split_eq_one_iff arrow_head_not_mem).mp honce⟩
  · intro h
    refine ⟨h.1, ?_⟩
    rw [h.1]
    exact (Text.occurrences_split_eq_one_iff arrow_head_not_mem).mpr h.2

theorem exists_hasOneArrow {spec : String} (h : occurrences arrow spec.toList = 1) :
    ∃ before after, HasOneArrow spec before after := by
  obtain ⟨before, after, htext⟩ := Text.exists_split_of_occurrences arrow_head_not_mem h
  exact ⟨before, after, htext, h⟩

section
variable (key : String) {spec : String} {before after : List Char}

/-- A text with one arrow is read half by half. -/
theorem ofSetting_of_hasOneArrow (h : HasOneArrow spec before after) :
    ofSetting key (some (.text spec)) = (ofHalves spec before after, []) := by
  obtain ⟨htext, hbefore, hafter⟩ := hasOneArrow_iff.mp h
  have hne : spec ≠ "" := by
    intro hempty
    rw [hempty] at htext
    cases before <;> cases htext
  have hpieces : Text.pieces arrow spec.toList = [before, after] := by
    have hlast : Text.pieces arrow after = [after] := Text.pieces_of_not_infix hafter
    rw [htext, ← hlast]
    exact Text.pieces_append_append arrow_head_not_mem hbefore after
  simp only [ofSetting, if_neg hne, hpieces]

/-- A text with no arrow or with several ones is ignored with a warning. -/
theorem ofSetting_of_occurrences_ne (hspec : spec ≠ "") (h : occurrences arrow spec.toList ≠ 1) :
    ofSetting key (some (.text spec)) = (.ok .none, [malformed spec key]) := by
  have hlength : (Text.pieces arrow spec.toList).length ≠ 2 := by
    have hcount := Text.length_pieces arrow_head_not_mem spec.toList
    rw [arrow] at h ⊢
    omega
  simp only [ofSetting, if_neg hspec]
  split
  · next hpieces =>
    rw [hpieces] at hlength
    exact absurd rfl hlength
  · rfl

theorem ofSetting_of_compile {pattern : Pattern.Compiled} (h : HasOneArrow spec before after)
    (hcompile : Pattern.compile (toUnits (trim before)) = .ok pattern) :
    ∃ n, countGroups (toUnits (trim before)) = .ok n ∧
      ofSetting key (some (.text spec)) =
        (.ok (.template pattern (String.ofList (trim after)) n), []) := by
  obtain ⟨n, hn⟩ := exists_countGroups hcompile
  refine ⟨n, hn, ?_⟩
  rw [ofSetting_of_hasOneArrow key h, ofHalves]
  simp only [hcompile, hn]

theorem ofSetting_of_fault {fault : Pattern.Fault} (h : HasOneArrow spec before after)
    (hcompile : Pattern.compile (toUnits (trim before)) = .error fault) :
    ofSetting key (some (.text spec)) =
      (.error (.badPattern spec (String.ofList (trim before)) fault), []) := by
  rw [ofSetting_of_hasOneArrow key h, ofHalves_of_error hcompile]

end

/-- What the text of a rewrite is read as. -/
structure ReadByArrow (key spec : String) : Prop where
  /-- It is a template exactly if it has one arrow and a pattern before it. -/
  template : (∃ pattern replacement n,
      (ofSetting key (some (.text spec))).1 = .ok (.template pattern replacement n)) ↔
    ∃ before after pattern, HasOneArrow spec before after ∧
      Pattern.compile (toUnits (trim before)) = .ok pattern
  /-- It is refused exactly if it has one arrow and no pattern before it. -/
  refused : ∀ e, (ofSetting key (some (.text spec))).1 = .error e ↔
    ∃ before after fault, HasOneArrow spec before after ∧
      Pattern.compile (toUnits (trim before)) = .error fault ∧
      e = .badPattern spec (String.ofList (trim before)) fault
  ignored : (ofSetting key (some (.text spec))).1 = .ok .none ↔ occurrences arrow spec.toList ≠ 1
  log : (ofSetting key (some (.text spec))).2 =
    if occurrences arrow spec.toList = 1 then [] else [malformed spec key]

/-- The three ways of reading a text that is not empty. -/
theorem ofSetting_text_cases (key : String) {spec : String} (hspec : spec ≠ "") :
    (∃ before after pattern n, HasOneArrow spec before after ∧
      Pattern.compile (toUnits (trim before)) = .ok pattern ∧
      ofSetting key (some (.text spec)) =
        (.ok (.template pattern (String.ofList (trim after)) n), [])) ∨
    (∃ before after fault, HasOneArrow spec before after ∧
      Pattern.compile (toUnits (trim before)) = .error fault ∧
      ofSetting key (some (.text spec)) =
        (.error (.badPattern spec (String.ofList (trim before)) fault), [])) ∨
    (occurrences arrow spec.toList ≠ 1 ∧
      ofSetting key (some (.text spec)) = (.ok .none, [malformed spec key])) := by
  by_cases honce : occurrences arrow spec.toList = 1
  · obtain ⟨before, after, harrow⟩ := exists_hasOneArrow honce
    cases hcompile : Pattern.compile (toUnits (trim before)) with
    | ok pattern =>
      obtain ⟨n, -, hread⟩ := ofSetting_of_compile key harrow hcompile
      exact .inl ⟨before, after, pattern, n, harrow, hcompile, hread⟩
    | error fault =>
      have hread := ofSetting_of_fault key harrow hcompile
      exact .inr (.inl ⟨before, after, fault, harrow, hcompile, hread⟩)
  · exact .inr (.inr ⟨honce, ofSetting_of_occurrences_ne key hspec honce⟩)

theorem readByArrow (key : String) {spec : String} (hspec : spec ≠ "") : ReadByArrow key spec := by
  have hcases := ofSetting_text_cases key hspec
  constructor
  · constructor
    · intro h
      obtain ⟨pattern, replacement, n, htemplate⟩ := h
      rcases hcases with ⟨before, after, p, m, harrow, hcompile, -⟩ | ⟨_, _, _, -, -, hread⟩ |
        ⟨-, hread⟩
      · exact ⟨before, after, p, harrow, hcompile⟩
      · rw [hread] at htemplate
        cases htemplate
      · rw [hread] at htemplate
        cases htemplate
    · intro h
      obtain ⟨before, after, pattern, harrow, hcompile⟩ := h
      obtain ⟨n, -, hread⟩ := ofSetting_of_compile key harrow hcompile
      exact ⟨pattern, _, n, by rw [hread]⟩
  · intro e
    constructor
    · intro h
      rcases hcases with ⟨_, _, _, _, -, -, hread⟩ |
        ⟨before, after, fault, harrow, hcompile, hread⟩ | ⟨-, hread⟩
      · rw [hread] at h
        cases h
      · rw [hread] at h
        exact ⟨before, after, fault, harrow, hcompile, (Except.error.inj h).symm⟩
      · rw [hread] at h
        cases h
    · intro h
      obtain ⟨before, after, fault, harrow, hcompile, rfl⟩ := h
      rw [ofSetting_of_fault key harrow hcompile]
  · constructor
    · intro h
      rcases hcases with ⟨_, _, _, _, -, -, hread⟩ | ⟨_, _, _, -, -, hread⟩ | ⟨hother, -⟩
      · rw [hread] at h
        cases h
      · rw [hread] at h
        cases h
      · exact hother
    · intro hother
      rw [ofSetting_of_occurrences_ne key hspec hother]
  · rcases hcases with
      ⟨_, _, _, _, harrow, -, hread⟩ | ⟨_, _, _, harrow, -, hread⟩ | ⟨hother, hread⟩
    · rw [hread, if_pos harrow.once]
    · rw [hread, if_pos harrow.once]
    · rw [hread, if_neg hother]

/-- A text that is not empty is read by its single arrow. Whatever two texts without an arrow are
    put on both sides of one, the pattern is the first of them and the replacement the second, both
    trimmed, even if they make more of the characters of an arrow where they meet it. -/
theorem ofSetting_reads_single_arrow (key : String) :
    (∀ spec : String, spec ≠ "" → ReadByArrow key spec) ∧
    ∀ (spec : String) (before after : List Char), ¬arrow <:+: before → ¬arrow <:+: after →
      spec.toList = before ++ arrow ++ after →
      (∀ pattern, Pattern.compile (toUnits (trim before)) = .ok pattern →
        ∃ n, countGroups (toUnits (trim before)) = .ok n ∧ ofSetting key (some (.text spec)) =
          (.ok (.template pattern (String.ofList (trim after)) n), [])) ∧
      ∀ fault, Pattern.compile (toUnits (trim before)) = .error fault →
        ofSetting key (some (.text spec)) =
          (.error (.badPattern spec (String.ofList (trim before)) fault), []) := by
  refine ⟨fun spec hspec => readByArrow key hspec, ?_⟩
  intro spec before after hbefore hafter htext
  rw [List.append_assoc] at htext
  have harrow : HasOneArrow spec before after := hasOneArrow_iff.mpr ⟨htext, hbefore, hafter⟩
  constructor
  · intro pattern hcompile
    exact ofSetting_of_compile key harrow hcompile
  · intro fault hcompile
    exact ofSetting_of_fault key harrow hcompile

/-- A hyphen before the arrow and an angle bracket behind it belong to the halves. -/
theorem framed_arrow_read :
    ReadByArrow "/v1/" "a- -->> $0" ∧
    ¬arrow <:+: "a- -".toList ∧ ¬arrow <:+: "> $0".toList ∧
    ∃ pattern n, Pattern.compile (toUnits "a- -".toList) = .ok pattern ∧
      ofSetting "/v1/" (some (.text "a- -->> $0")) = (.ok (.template pattern "> $0" n), []) := by
  obtain ⟨hread, hseam⟩ := ofSetting_reads_single_arrow "/v1/"
  have hbefore : ¬arrow <:+: "a- -".toList := by decide
  have hafter : ¬arrow <:+: "> $0".toList := by decide
  obtain ⟨hpattern, -⟩ := hseam "a- -->> $0" "a- -".toList "> $0".toList hbefore hafter (by decide)
  obtain ⟨n, -, htemplate⟩ := hpattern _ rfl
  exact ⟨hread _ (by decide), hbefore, hafter, _, n, rfl, htemplate⟩

end Rewrite

end Gateway
