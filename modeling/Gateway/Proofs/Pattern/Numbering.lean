import Gateway.Proofs.Pattern.EmptyAlternative
import Gateway.Proofs.Pattern.Ends
import Gateway.Proofs.Pattern.Matches

/- The numbers of the groups of a pattern. The pass that builds a tree numbers each group when it is
   opened, and a loop notes which groups its body holds. So at each moment what has been read holds
   the groups up to the last one opened, in order and each once (`Builder.IsNumbered`), and one token
   more keeps that (`isNumbered_of_step`). In a tree that is numbered in this way, what a loop forgets
   are groups that there are, so no step of matching changes how many groups a state has a place for,
   and a match has one for each group of its pattern (`length_captures_of_matchAt`). -/
namespace Gateway.Pattern

open Gateway.Text (CodeUnit)

/-! ## Numbered trees -/

/-- The numbers of the groups of a node, from the left. -/
def Node.groupNumbers : Node → List Nat
  | .capture group body => group :: body.groupNumbers
  | .look _ _ body => body.groupNumbers
  | .seq first second => first.groupNumbers ++ second.groupNumbers
  | .alt first second => first.groupNumbers ++ second.groupNumbers
  | .loop _ _ _ body => body.groupNumbers
  | _ => []

/-- A node without parts. -/
def Node.isLeaf : Node → Bool
  | .capture .. | .look .. | .seq .. | .alt .. | .loop .. => false
  | _ => true

/-- The node holds the groups above `before` up to `upto`, in order, and each of its loops says
    which ones it holds. -/
inductive Numbered : (before upto : Nat) → Node → Prop
  | leaf {n : Nat} {node : Node} (h : node.isLeaf = true) : Numbered n n node
  | capture {a b : Nat} {body : Node} (h : Numbered (a + 1) b body) :
    Numbered a b (.capture (a + 1) body)
  | look {a b : Nat} {behind negated : Bool} {body : Node} (h : Numbered a b body) :
    Numbered a b (.look behind negated body)
  | seq {a b c : Nat} {first second : Node} (h : Numbered a b first) (h' : Numbered b c second) :
    Numbered a c (.seq first second)
  | alt {a b c : Nat} {first second : Node} (h : Numbered a b first) (h' : Numbered b c second) :
    Numbered a c (.alt first second)
  | loop {a b : Nat} {times : Quantifier} {body : Node} (h : Numbered a b body) :
    Numbered a b (.loop times a b body)

theorem Node.groupNumbers_of_isLeaf {node : Node} (h : node.isLeaf = true) :
    node.groupNumbers = [] := by
  cases node <;> first | rfl | cases h

theorem Numbered.le {a b : Nat} {node : Node} (h : Numbered a b node) : a ≤ b := by
  induction h with
  | leaf _ => exact Nat.le_refl _
  | capture _ ih => omega
  | look _ ih | loop _ ih => exact ih
  | seq _ _ ih ih' | alt _ _ ih ih' => exact Nat.le_trans ih ih'

/-- The groups of a numbered tree are counted on from those before it. -/
theorem Numbered.groupNumbers {a b : Nat} {node : Node} (h : Numbered a b node) :
    node.groupNumbers = List.range' (a + 1) (b - a) := by
  have hjoin {a b c : Nat} (hab : a ≤ b) (hbc : b ≤ c) :
      List.range' (a + 1) (b - a) ++ List.range' (b + 1) (c - b) =
        List.range' (a + 1) (c - a) := by
    have hstart : b + 1 = a + 1 + (b - a) := by omega
    have hlength : b - a + (c - b) = c - a := by omega
    rw [hstart, List.range'_append_1, hlength]
  induction h with
  | leaf h => simp [Node.groupNumbers_of_isLeaf h]
  | @capture a b body h ih =>
    have hle := h.le
    have hlength : b - a = b - (a + 1) + 1 := by omega
    rw [Node.groupNumbers, ih, hlength, List.range'_succ]
  | look _ ih | loop _ ih => exact ih
  | seq h h' ih ih' | alt h h' ih ih' =>
    rw [Node.groupNumbers, ih, ih']
    exact hjoin h.le h'.le

/-! ## What tokens bring -/

/-- Whether the term of the token, if it has one, is without parts. -/
def Token.isPlain : Token → Bool
  | .atom node => node.isLeaf
  | .assertion node => node.isLeaf
  | _ => true

/-- Whether the token opens a group with a number. -/
def Token.opensGroup : Token → Bool
  | .opening (.capture _) => true
  | _ => false

section
variable {census : Census} {u : CodeUnit} {rest : List CodeUnit} {t : Token} {n : Nat}

theorem isPlain_of_ok {r : Token × Nat} (hr : r.1.isPlain = true)
    (h : (Except.ok r : Scan Token) = .ok (t, n)) : t.isPlain = true := by
  rw [Except.ok.inj h] at hr
  exact hr

theorem isPlain_of_map {α : Type} {f : α → Token × Nat} (hf : ∀ a, (f a).1.isPlain = true)
    {read : Except Fault α} (h : read.map f = .ok (t, n)) : t.isPlain = true := by
  obtain ⟨a, -, ha⟩ := map_eq_ok_iff.mp h
  exact isPlain_of_ok (hf a) (congrArg Except.ok ha)

theorem isPlain_of_openToken (h : openToken rest = .ok (t, n)) : t.isPlain = true := by
  unfold openToken at h
  split at h
  case h_6 => exact isPlain_of_map (fun _ => rfl) h
  case h_7 => cases h
  all_goals exact isPlain_of_ok rfl h

theorem isPlain_of_classToken (h : classToken census rest = .ok (t, n)) : t.isPlain = true := by
  unfold classToken at h
  split at h
  · split at h
    · exact isPlain_of_map (fun _ => rfl) h
    · exact isPlain_of_map (fun _ => rfl) h
  · exact isPlain_of_map (fun _ => rfl) h

theorem isPlain_of_escapeToken (h : escapeToken census u rest = .ok (t, n)) : t.isPlain = true := by
  unfold escapeToken at h
  split at h
  · exact isPlain_of_ok rfl h
  · exact isPlain_of_ok rfl h
  · split at h
    · split at h
      · split at h
        · exact isPlain_of_map (fun _ => rfl) h
        · cases h
      · cases h
    · exact isPlain_of_ok rfl h
  · split at h
    · exact isPlain_of_ok rfl h
    · next hback =>
      unfold backReference? at hback
      dsimp only at hback
      split at hback
      · obtain ⟨rfl, -⟩ := Prod.mk.inj (Option.some.inj hback)
        exact isPlain_of_ok rfl h
      · cases hback
    · exact isPlain_of_map (fun _ => rfl) h

theorem isPlain_quantifierToken (min : Nat) (max : Option Nat) (n : Nat) (rest : List CodeUnit) :
    (quantifierToken min max n rest).1.isPlain = true := by
  unfold quantifierToken
  split <;> rfl

theorem isPlain_of_token (h : token census u rest = .ok (t, n)) : t.isPlain = true := by
  unfold token at h
  split at h
  case h_6 | h_7 | h_8 => exact isPlain_of_ok (isPlain_quantifierToken ..) h
  case h_9 => -- a brace
    split at h
    · exact isPlain_of_ok (isPlain_quantifierToken ..) h
    · exact isPlain_of_ok rfl h
  case h_10 => exact isPlain_of_openToken h
  case h_11 => exact isPlain_of_classToken h
  case h_12 => -- a backslash
    split at h
    · exact isPlain_of_escapeToken h
    · cases h
  all_goals exact isPlain_of_ok rfl h

end

theorem isPlain_of_mem_tokens {census : Census} {skip : Nat} {s : List CodeUnit} {t : Token}
    (h : t ∈ tokensFrom census skip s) : t.isPlain = true := by
  induction s generalizing skip with
  | nil => cases skip <;> cases h
  | cons u rest ih =>
    cases skip with
    | succ skip => exact ih h
    | zero =>
      rw [tokensFrom] at h
      cases htoken : token census u rest with
      | ok r =>
        rw [htoken] at h
        rcases List.mem_cons.mp h with rfl | h
        · exact isPlain_of_token htoken
        · exact ih h
      | error fault =>
        rw [htoken] at h
        obtain rfl := List.mem_singleton.mp h
        rfl

/-! ## The pass -/

/-- Nodes in a row, the last one first, that hold the groups above `before` up to `upto`. -/
inductive Row : (before upto : Nat) → List Node → Prop
  | nil {n : Nat} : Row n n []
  | cons {a b c : Nat} {node : Node} {rest : List Node} (h : Row a b rest)
    (hnode : Numbered b c node) : Row a c (node :: rest)

theorem Row.sequence {a b : Nat} {terms : List Node} (h : Row a b terms) :
    Numbered a b (Level.sequence terms) := by
  have hfold {last : Node} {c : Nat} (hlast : Numbered b c last) :
      Numbered a c (terms.foldl (fun rest t => .seq t rest) last) := by
    induction h generalizing last with
    | nil => exact hlast
    | cons _ hnode ih => exact ih (.seq hnode hlast)
  exact hfold (.leaf rfl)

theorem Row.choice {a b c : Nat} {closed : List Node} (h : Row a b closed) {last : Node}
    (hlast : Numbered b c last) : Numbered a c (Level.choice last closed) := by
  induction h generalizing last with
  | nil => exact hlast
  | cons _ hnode ih => exact ih (.alt hnode hlast)

namespace Level

/-- The number that is given before those of the groups inside. -/
def first (l : Level) : Nat :=
  match l.kind with
  | .capture _ => l.before + 1
  | _ => l.before

/-- The terms of the alternative at hand hold the groups above `before` up to `upto`. -/
def HoldsTerms (l : Level) (before upto : Nat) : Prop :=
  match l.pending with
  | none => Row before upto l.terms
  | some t => Row before t.before l.terms ∧ Numbered t.before upto t.node

/-- What has been read of the level holds its groups up to `upto`. -/
def IsNumbered (l : Level) (upto : Nat) : Prop :=
  ∃ middle, Row l.first middle l.closed ∧ l.HoldsTerms middle upto

variable {l : Level} {n upto : Nat}

theorem HoldsTerms.allTerms {before : Nat} (h : l.HoldsTerms before upto) :
    Row before upto l.allTerms := by
  unfold HoldsTerms at h
  unfold Level.allTerms
  split at h
  · next hpending =>
    rw [hpending]
    exact h
  · next t hpending =>
    rw [hpending]
    exact .cons h.1 h.2

theorem IsNumbered.node (h : l.IsNumbered upto) : Numbered l.first upto l.node := by
  obtain ⟨middle, hclosed, hterms⟩ := h
  exact hclosed.choice hterms.allTerms.sequence

theorem isNumbered_opened (kind : GroupKind) (before : Nat) :
    (opened kind before).IsNumbered (opened kind before).first := ⟨_, .nil, .nil⟩

theorem IsNumbered.addTerm {t : Term} (h : l.IsNumbered t.before)
    (ht : Numbered t.before upto t.node) : (l.addTerm t).IsNumbered upto := by
  obtain ⟨middle, hclosed, hterms⟩ := h
  exact ⟨middle, hclosed, hterms.allTerms, ht⟩

theorem IsNumbered.addAssertion {node : Node} (h : l.IsNumbered n) (hnode : node.isLeaf = true) :
    (l.addAssertion node).IsNumbered n := by
  obtain ⟨middle, hclosed, hterms⟩ := h
  exact ⟨middle, hclosed, .cons hterms.allTerms (.leaf hnode)⟩

theorem IsNumbered.nextAlternative (h : l.IsNumbered n) : l.nextAlternative.IsNumbered n := by
  obtain ⟨middle, hclosed, hterms⟩ := h
  exact ⟨n, .cons hclosed hterms.allTerms.sequence, .nil⟩

end Level

/-- Levels inside each other, the innermost first: each holds the groups that were opened before
    the one in it was, and the outermost one holds all groups from the first. -/
inductive Nested : (upto : Nat) → List Level → Prop
  | bottom {upto : Nat} {l : Level} (h : l.IsNumbered upto) (hfirst : l.first = 0) :
    Nested upto [l]
  | inner {upto : Nat} {l around : Level} {outer : List Level} (h : l.IsNumbered upto)
    (hrest : Nested l.before (around :: outer)) : Nested upto (l :: around :: outer)

theorem Nested.innermost {upto : Nat} {l : Level} {outer : List Level}
    (h : Nested upto (l :: outer)) : l.IsNumbered upto := by
  cases h with
  | bottom h _ => exact h
  | inner h _ => exact h

/-- The innermost level may read on. -/
theorem Nested.replace {n upto : Nat} {l l' : Level} {outer : List Level}
    (h : Nested n (l :: outer)) (hl : l'.IsNumbered upto) (hkind : l'.kind = l.kind)
    (hbefore : l'.before = l.before) : Nested upto (l' :: outer) := by
  cases h with
  | bottom _ hfirst =>
    refine .bottom hl ?_
    rw [Level.first, hkind, hbefore]
    exact hfirst
  | inner _ hrest => exact .inner hl (hbefore ▸ hrest)

namespace Builder

/-- What has been read holds the groups that have been opened. -/
def IsNumbered (b : Builder) : Prop := Nested b.groups (b.level :: b.outer)

variable {b c : Builder}

theorem isNumbered_start : start.IsNumbered :=
  .bottom (Level.isNumbered_opened .plain 0) rfl

theorem IsNumbered.addAtom {node : Node} (h : b.IsNumbered) (hnode : node.isLeaf = true) :
    (b.addAtom node).IsNumbered := by
  have hlevel : (b.level.addTerm ⟨node, b.groups, false⟩).IsNumbered b.groups :=
    h.innermost.addTerm (.leaf hnode)
  exact h.replace hlevel rfl rfl

theorem IsNumbered.openGroup (h : b.IsNumbered) (kind : GroupKind) :
    (b.openGroup kind).IsNumbered := by
  have hlevel := Level.isNumbered_opened kind b.groups
  cases kind <;> exact .inner hlevel h

/-- A complete group is a term of the level around it. -/
theorem isNumbered_put {around : Level} {outer : List Level} {node : Node}
    (houter : Nested b.level.before (around :: outer))
    (hnode : Numbered b.level.before b.groups node) (lookbehind : Bool) :
    (b.put around outer node lookbehind).IsNumbered := by
  have hlevel : (around.addTerm ⟨node, b.level.before, lookbehind⟩).IsNumbered b.groups :=
    houter.innermost.addTerm hnode
  exact houter.replace hlevel rfl rfl

theorem IsNumbered.closeGroup (h : b.IsNumbered) (hclose : b.closeGroup = .ok c) :
    c.IsNumbered ∧ c.groups = b.groups := by
  unfold IsNumbered at h
  have hbody := h.innermost.node
  unfold Builder.closeGroup at hclose
  cases houter : b.outer with
  | nil =>
    rw [houter] at hclose
    cases hclose
  | cons around outer =>
    rw [houter] at h hclose
    have hrest : Nested b.level.before (around :: outer) := by
      cases h with
      | inner _ hrest => exact hrest
    dsimp only at hclose
    split at hclose
    · next hkind =>
      rw [Level.first, hkind] at hbody
      obtain rfl := Except.ok.inj hclose
      exact ⟨isNumbered_put hrest hbody false, rfl⟩
    · next behind negated hkind =>
      rw [Level.first, hkind] at hbody
      obtain rfl := Except.ok.inj hclose
      exact ⟨isNumbered_put hrest hbody.look behind, rfl⟩
    · next hkind =>
      rw [Level.first, hkind] at hbody
      obtain rfl := Except.ok.inj hclose
      exact ⟨isNumbered_put hrest hbody.capture false, rfl⟩
    · next name hkind =>
      rw [Level.first, hkind] at hbody
      split at hclose
      · cases hclose
      · obtain rfl := Except.ok.inj hclose
        exact ⟨isNumbered_put hrest hbody.capture false, rfl⟩

theorem IsNumbered.quantify {times : Quantifier} (h : b.IsNumbered)
    (hquantify : b.quantify times = .ok c) : c.IsNumbered ∧ c.groups = b.groups := by
  unfold Builder.quantify at hquantify
  obtain ⟨middle, hclosed, hterms⟩ := h.innermost
  unfold Level.HoldsTerms at hterms
  split at hquantify
  · cases hquantify
  · next t hpending =>
    rw [hpending] at hterms
    split at hquantify
    · cases hquantify
    · split at hquantify
      · cases hquantify
      · obtain rfl := Except.ok.inj hquantify
        refine ⟨h.replace ⟨middle, hclosed, ?_⟩ rfl rfl, rfl⟩
        exact .cons hterms.1 (.loop hterms.2)

/-- One token more keeps the numbering, and counts if it opens a group. -/
theorem isNumbered_of_step {t : Token} (h : b.IsNumbered) (ht : t.isPlain = true)
    (hstep : b.step t = .ok c) :
    c.IsNumbered ∧ c.groups = b.groups + if t.opensGroup then 1 else 0 := by
  cases t with
  | atom node =>
    obtain rfl := Except.ok.inj hstep
    exact ⟨h.addAtom ht, rfl⟩
  | assertion node =>
    obtain rfl := Except.ok.inj hstep
    exact ⟨h.replace (h.innermost.addAssertion ht) rfl rfl, rfl⟩
  | bar =>
    obtain rfl := Except.ok.inj hstep
    exact ⟨h.replace h.innermost.nextAlternative rfl rfl, rfl⟩
  | opening kind =>
    obtain rfl := Except.ok.inj hstep
    refine ⟨h.openGroup kind, ?_⟩
    cases kind <;> rfl
  | closing => exact h.closeGroup hstep
  | quantifier times => exact h.quantify hstep
  | bad fault => cases hstep

theorem isNumbered_of_build {tokens : List Token} (h : b.IsNumbered)
    (htokens : ∀ t ∈ tokens, t.isPlain = true) (hbuild : b.build tokens = .ok c) :
    c.IsNumbered ∧ c.groups = b.groups + tokens.countP Token.opensGroup := by
  induction tokens generalizing b with
  | nil =>
    obtain rfl := Except.ok.inj hbuild
    exact ⟨h, rfl⟩
  | cons t rest ih =>
    obtain ⟨ht, hrest⟩ := List.forall_mem_cons.mp htokens
    rw [build_cons] at hbuild
    obtain ⟨d, hstep, hbuild⟩ := bind_eq_ok_iff.mp hbuild
    obtain ⟨hd, hgroups⟩ := isNumbered_of_step h ht hstep
    obtain ⟨hc, hcount⟩ := ih hd hrest hbuild
    refine ⟨hc, ?_⟩
    rw [hcount, hgroups, List.countP_cons]
    omega

end Builder

/-- The groups of a pattern that compiles are numbered in the order in which they are opened, and
    there are as many as are opened in its text. -/
theorem numbered_of_compile {source : List CodeUnit} {p : Compiled} (h : compile source = .ok p) :
    Numbered 0 p.groups p.node ∧ p.groups = (tokens source).countP Token.opensGroup := by
  obtain ⟨b, hbuild, hfinish⟩ := bind_eq_ok_iff.mp h
  obtain ⟨houter, -, rfl⟩ := finish_eq_ok_iff.mp hfinish
  obtain ⟨hb, hgroups⟩ := Builder.isNumbered_of_build Builder.isNumbered_start
    (fun t ht => isPlain_of_mem_tokens ht) hbuild
  unfold Builder.IsNumbered at hb
  rw [houter] at hb
  refine ⟨?_, hgroups.trans (Nat.zero_add _)⟩
  cases hb with
  | bottom hlevel hfirst => exact hfirst ▸ hlevel.node

/-! ## Places for the groups -/

theorem State.length_setCapture (s : State) (group : Nat) (span : Span) :
    (s.setCapture group span).captures.length = s.captures.length := by
  rw [State.setCapture, List.length_set]

/-- To forget groups that there are does not change how many there are. -/
theorem State.length_forget {s : State} {before upto : Nat} (hle : before ≤ upto)
    (hupto : upto ≤ s.captures.length) :
    (s.forget before upto).captures.length = s.captures.length := by
  unfold State.forget
  split
  · rfl
  · simp only [List.length_append, List.length_take, List.length_replicate, List.length_drop]
    omega

theorem length_captures_of_matchUnit {x : Subject} {behind : Bool} {p : CodeUnit → Bool}
    {s t : State} (h : x.matchUnit behind p s some = some t) :
    t.captures.length = s.captures.length := by
  unfold Subject.matchUnit at h
  split at h
  · split at h
    · obtain rfl := Option.some.inj h
      rfl
    · cases h
  · cases h

theorem length_captures_of_matchBack {x : Subject} {behind : Bool} {span : Option Span}
    {s t : State} (h : x.matchBack behind span s some = some t) :
    t.captures.length = s.captures.length := by
  unfold Subject.matchBack at h
  split at h
  · obtain rfl := Option.some.inj h
    rfl
  · dsimp only at h
    split at h
    · split at h
      · obtain rfl := Option.some.inj h
        rfl
      · cases h
    · split at h
      · obtain rfl := Option.some.inj h
        rfl
      · cases h

theorem length_captures_of_leaf {x : Subject} {node : Node} (hnode : node.isLeaf = true)
    {behind : Bool} {s t : State} (h : t ∈ x.ends node behind s) :
    t.captures.length = s.captures.length := by
  cases node with
  | capture | look | seq | alt | loop => cases hnode
  | empty =>
    obtain rfl := List.mem_singleton.mp h
    rfl
  | unit | any | set => exact length_captures_of_matchUnit (Option.mem_toList.mp h)
  | backTo | backToName => exact length_captures_of_matchBack (Option.mem_toList.mp h)
  | atStart | atEnd | atBoundary =>
    rw [Subject.ends] at h
    split at h
    · obtain rfl := List.mem_singleton.mp h
      rfl
    · cases h

/-- Matching a numbered node changes what groups have captured, not how many there are. -/
theorem Numbered.length_captures {x : Subject} {a b : Nat} {node : Node} (h : Numbered a b node)
    {behind : Bool} {s t : State} (hs : b ≤ s.captures.length) (ht : t ∈ x.ends node behind s) :
    t.captures.length = s.captures.length := by
  induction h generalizing behind s t with
  | leaf hnode => exact length_captures_of_leaf hnode ht
  | capture _ ih =>
    obtain ⟨u, hu, rfl⟩ := List.mem_map.mp ht
    exact (State.length_setCapture ..).trans (ih hs hu)
  | @look _ _ direction negated body _ ih =>
    cases negated with
    | true =>
      rw [Subject.ends] at ht
      split at ht
      · obtain rfl := List.mem_singleton.mp ht
        rfl
      · cases ht
    | false =>
      obtain ⟨u, hu, rfl⟩ := List.mem_map.mp ht
      have hmem : u ∈ x.ends body direction s := List.mem_of_head? (Option.mem_toList.mp hu)
      have hlength := ih hs hmem
      exact hlength
  | @seq a b c first second h h' ih ih' =>
    have hb : b ≤ s.captures.length := Nat.le_trans h'.le hs
    cases behind with
    | true =>
      obtain ⟨u, hu, ht⟩ := List.mem_flatMap.mp ht
      have hlength := ih' hs hu
      exact (ih (hlength ▸ hb) ht).trans hlength
    | false =>
      obtain ⟨u, hu, ht⟩ := List.mem_flatMap.mp ht
      have hlength := ih hb hu
      exact (ih' (hlength ▸ hs) ht).trans hlength
  | alt h h' ih ih' =>
    rcases List.mem_append.mp ht with ht | ht
    · exact ih (Nat.le_trans h'.le hs) ht
    · exact ih' hs ht
  | @loop a b times body h ih =>
    have hbody (u : State) (hu : u.captures.length = s.captures.length) :
        ∀ t ∈ x.ends body behind u, t.captures.length = s.captures.length :=
      fun t ht => (ih (hu ▸ hs) ht).trans hu
    have hclear (u : State) (hu : u.captures.length = s.captures.length) :
        (u.forget a b).captures.length = s.captures.length :=
      (State.length_forget h.le (hu ▸ hs)).trans hu
    exact Subject.keeps_of_mem_loop hbody hclear rfl ht

/-- A match has a place for each group of its pattern. -/
theorem length_captures_of_matchAt {p : Compiled} (h : Numbered 0 p.groups p.node)
    {input : Array CodeUnit} {pos : Nat} {m : Match} (hm : p.matchAt input pos = some m) :
    m.captures.length = p.groups := by
  rw [Compiled.matchAt_eq_head?] at hm
  obtain ⟨t, ht, rfl⟩ := Option.map_eq_some_iff.mp hm
  have hstart : (List.replicate p.groups (none : Option Span)).length = p.groups :=
    List.length_replicate
  exact (h.length_captures (Nat.le_of_eq hstart.symm) (List.mem_of_head? ht)).trans hstart

theorem length_captures_of_mem_matchAll {p : Compiled} (h : Numbered 0 p.groups p.node)
    {input : Array CodeUnit} {m : Match} (hm : m ∈ p.matchAll input) :
    m.captures.length = p.groups := by
  have hall {pos : Nat} {ms : List Match} (hms : p.Successive input pos ms) (hm : m ∈ ms) :
      m.captures.length = p.groups := by
    induction hms with
    | done _ => cases hm
    | next hnext _ ih =>
      rcases List.mem_cons.mp hm with rfl | hm
      · exact length_captures_of_matchAt h hnext.found
      · exact ih hm
  exact hall (Compiled.successive_matchAll p input) hm

end Gateway.Pattern
