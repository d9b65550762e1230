import Gateway.Pattern.Match

/- What a matcher reaches. The matcher of a node hands each state that it reaches to the
   continuation until one is accepted; `ends` lists these states, in order of preference, and
   matching is the first of them that the continuation accepts (`run_eq_findSome?`). What
   holds of all states in the list holds of every match: read forward, a node moves forward
   and stays in the input (`forward_of_mem_ends`). -/
namespace Gateway.Pattern

/-! ## Searching lists -/

theorem findSome?_flatMap {α β γ : Type} (f : α → List β) (g : β → Option γ) (l : List α) :
    (l.flatMap f).findSome? g = l.findSome? fun a => (f a).findSome? g := by
  induction l with
  | nil => rfl
  | cons a rest ih =>
    rw [List.flatMap_cons, List.findSome?_append, ih, List.findSome?_cons]
    cases (f a).findSome? g <;> rfl

theorem findSome?_some {α : Type} (l : List α) : l.findSome? some = l.head? := by
  cases l <;> rfl

theorem findSome?_toList {α β : Type} (o : Option α) (g : α → Option β) :
    o.toList.findSome? g = o.bind g := by
  cases o with
  | none => rfl
  | some a => cases h : g a <;> simp [h]

theorem State.forget_pos (s : State) (before upto : Nat) : (s.forget before upto).pos = s.pos := by
  unfold forget
  split <;> rfl

namespace Subject

variable (x : Subject)

/-! ## The states that are reached -/

/-- The states after `n` repetitions; see `repeatExactly`. -/
def exactlyEnds (body : State → List State) (clear : State → State) (size : Nat) :
    Nat → State → List State
  | 0, s => [s]
  | n + 1, s =>
    if size < n && (body (clear s)).all (fun t => clear t = clear s) then body (clear s)
    else (body (clear s)).flatMap (exactlyEnds body clear size n)

/-- The states after up to `n` repetitions; see `repeatUpTo`. -/
def upToEnds (body : State → List State) (clear : State → State) (greedy : Bool) :
    Nat → State → List State
  | 0, s => [s]
  | n + 1, s =>
    let again := (body (clear s)).flatMap fun t =>
      if t.pos = s.pos then [] else upToEnds body clear greedy n t
    if greedy then again ++ [s] else s :: again

/-- The states that a node reaches from `s`, in order of preference. -/
def ends : Node → (behind : Bool) → State → List State
  | .empty, _, s => [s]
  | .unit u, behind, s => (x.matchUnit behind (· == u) s some).toList
  | .any, behind, s => (x.matchUnit behind (fun u => !isLineEnd u) s some).toList
  | .set negated items, behind, s =>
    (x.matchUnit behind (fun u => (items.any fun item => item.holds u) != negated) s some).toList
  | .atStart, _, s => if s.pos = 0 then [s] else []
  | .atEnd, _, s => if s.pos = x.input.size then [s] else []
  | .atBoundary negated, _, s => if x.isBoundary s.pos != negated then [s] else []
  | .backTo group, behind, s => (x.matchBack behind (s.captureOf group) s some).toList
  | .backToName name, behind, s =>
    (x.matchBack behind ((x.names.lookup name).bind s.captureOf) s some).toList
  | .capture group body, behind, s =>
    (ends body behind s).map fun t =>
      t.setCapture group (if behind then (t.pos, s.pos) else (s.pos, t.pos))
  | .look behind false body, _, s =>
    (ends body behind s).head?.toList.map fun t => { t with pos := s.pos }
  | .look behind true body, _, s => if (ends body behind s).isEmpty then [s] else []
  | .seq first second, behind, s =>
    if behind then (ends second true s).flatMap (ends first true)
    else (ends first false s).flatMap (ends second false)
  | .alt first second, behind, s => ends first behind s ++ ends second behind s
  | .loop times before upto body, behind, s =>
    let clear (t : State) := t.forget before upto
    (exactlyEnds (ends body behind) clear x.input.size times.min s).flatMap fun t =>
      let more := match times.max with
        | some max => max - times.min
        | none => x.room behind t.pos
      upToEnds (ends body behind) clear times.greedy more t

/-! ## Matching is a search through the list -/

theorem matchUnit_eq_bind (behind : Bool) (p : Text.CodeUnit → Bool) (s : State)
    (k : Continuation) :
    x.matchUnit behind p s k = (x.matchUnit behind p s some).bind k := by
  unfold matchUnit
  split
  · split <;> rfl
  · rfl

theorem matchBack_eq_bind (behind : Bool) (span : Option Span) (s : State) (k : Continuation) :
    x.matchBack behind span s k = (x.matchBack behind span s some).bind k := by
  unfold matchBack
  split
  · rfl
  · dsimp only
    split
    · split <;> rfl
    · split <;> rfl

theorem orElse_eq_or (first second : Option State) :
    orElse first (fun _ => second) = first.or second := by
  cases first <;> rfl

section
variable {body : State → Continuation → Option State} {list : State → List State}
  (hbody : ∀ s k, body s k = (list s).findSome? k)
include hbody

theorem isIdle_eq_all (clear : State → State) (s : State) :
    isIdle body clear s = (list s).all fun t => clear t = s := by
  unfold isIdle
  rw [hbody, Bool.eq_iff_iff, Option.isNone_iff_eq_none, List.findSome?_eq_none_iff]
  simp

theorem repeatExactly_eq (clear : State → State) (size n : Nat) (s : State) (k : Continuation) :
    repeatExactly body clear size n s k =
      (exactlyEnds list clear size n s).findSome? k := by
  induction n generalizing s with
  | zero => simp [repeatExactly, exactlyEnds]
  | succ n ih =>
    rw [repeatExactly, exactlyEnds, isIdle_eq_all hbody]
    split
    · exact hbody _ _
    · rw [hbody, findSome?_flatMap]
      simp only [ih]

theorem repeatUpTo_eq (clear : State → State) (greedy : Bool) (n : Nat) (s : State)
    (k : Continuation) :
    repeatUpTo body clear greedy n s k = (upToEnds list clear greedy n s).findSome? k := by
  induction n generalizing s with
  | zero => simp [repeatUpTo, upToEnds]
  | succ n ih =>
    have hagain : (body (clear s) fun t =>
        if t.pos = s.pos then none else repeatUpTo body clear greedy n t k) =
        ((list (clear s)).flatMap fun t =>
          if t.pos = s.pos then [] else upToEnds list clear greedy n t).findSome? k := by
      rw [hbody, findSome?_flatMap]
      congr 1
      funext t
      split
      · rfl
      · exact ih t
    rw [repeatUpTo, upToEnds]
    dsimp only
    rw [hagain, orElse_eq_or, orElse_eq_or]
    cases greedy with
    | true => simp [List.findSome?_append]
    | false => cases hk : k s <;> simp [hk]

end

/-- Matching a node is searching the states that it reaches for one that is accepted. -/
theorem run_eq_findSome? (node : Node) (behind : Bool) (s : State) (k : Continuation) :
    x.run node behind s k = (x.ends node behind s).findSome? k := by
  induction node generalizing behind s k with
  | capture group body ih => simp [run, ends, ih, List.findSome?_map, Function.comp_def]
  | look direction negated body ih =>
    cases negated with
    | true =>
      rw [run, ends, ih, findSome?_some]
      cases x.ends body direction s <;> simp
    | false =>
      rw [run, ends, ih, findSome?_some]
      cases (x.ends body direction s).head? <;> simp
  | seq first second ih1 ih2 =>
    cases behind with
    | true => simp [run, ends, ih1, ih2, findSome?_flatMap]
    | false => simp [run, ends, ih1, ih2, findSome?_flatMap]
  | alt first second ih1 ih2 =>
    rw [run, ends, orElse_eq_or, ih1, ih2, List.findSome?_append]
  | loop times before upto body ih =>
    have hbody := ih behind
    rw [run, ends, repeatExactly_eq hbody, findSome?_flatMap]
    exact congrArg (List.findSome? · _) (funext fun t => repeatUpTo_eq hbody ..)
  | empty => simp [run, ends]
  | unit | any | set => rw [run, ends, findSome?_toList, ← matchUnit_eq_bind]
  | atStart | atEnd | atBoundary =>
    rw [run, ends]
    split <;> simp
  | backTo | backToName => rw [run, ends, findSome?_toList, ← matchBack_eq_bind]

/-! ## Where matching leads -/

/-- Nothing that has been passed is returned to, and the end is not passed. -/
def Forward (s t : State) : Prop :=
  s.pos ≤ t.pos ∧ (s.pos ≤ x.input.size → t.pos ≤ x.input.size)

variable {x}

theorem Forward.refl (s : State) : x.Forward s s := ⟨Nat.le_refl _, id⟩

theorem Forward.trans {s t u : State} (h : x.Forward s t) (h' : x.Forward t u) : x.Forward s u :=
  ⟨Nat.le_trans h.1 h'.1, fun hs => h'.2 (h.2 hs)⟩

theorem forward_of_matchUnit {p : Text.CodeUnit → Bool} {s t : State}
    (h : x.matchUnit false p s some = some t) : x.Forward s t := by
  unfold matchUnit unitAt at h
  split at h
  · next u hu =>
    split at h
    · obtain rfl := Option.some.inj h
      have hlt : s.pos < x.input.size := (Array.getElem?_eq_some_iff.mp hu).1
      exact ⟨Nat.le_add_right .., fun _ => hlt⟩
    · cases h
  · cases h

theorem forward_of_matchBack {span : Option Span} {s t : State}
    (h : x.matchBack false span s some = some t) : x.Forward s t := by
  unfold matchBack at h
  split at h
  · obtain rfl := Option.some.inj h
    exact .refl s
  · dsimp only at h
    split at h
    · cases ‹false = true›
    · split at h
      · next hroom =>
        obtain rfl := Option.some.inj h
        rw [Bool.and_eq_true, decide_eq_true_eq] at hroom
        exact ⟨Nat.le_add_right .., fun _ => hroom.1⟩
      · cases h

section
variable {body : State → List State} {clear : State → State} {P : State → Prop}
  (hbody : ∀ s, P s → ∀ t ∈ body s, P t) (hclear : ∀ s, P s → P (clear s))
include hbody hclear

/-- What every repetition keeps holds after all of them. -/
theorem keeps_of_mem_exactlyEnds {size n : Nat} {s t : State} (hs : P s)
    (h : t ∈ exactlyEnds body clear size n s) : P t := by
  induction n generalizing s with
  | zero =>
    obtain rfl := List.mem_singleton.mp h
    exact hs
  | succ n ih =>
    rw [exactlyEnds] at h
    split at h
    · exact hbody _ (hclear s hs) t h
    · obtain ⟨u, hu, ht⟩ := List.mem_flatMap.mp h
      exact ih (hbody _ (hclear s hs) u hu) ht

theorem keeps_of_mem_upToEnds {greedy : Bool} {n : Nat} {s t : State} (hs : P s)
    (h : t ∈ upToEnds body clear greedy n s) : P t := by
  induction n generalizing s with
  | zero =>
    obtain rfl := List.mem_singleton.mp h
    exact hs
  | succ n ih =>
    have hcases : t = s ∨ t ∈ (body (clear s)).flatMap fun t =>
        if t.pos = s.pos then [] else upToEnds body clear greedy n t := by
      rw [upToEnds] at h
      split at h
      · rcases List.mem_append.mp h with h | h
        · exact .inr h
        · exact .inl (List.mem_singleton.mp h)
      · exact List.mem_cons.mp h
    rcases hcases with rfl | hagain
    · exact hs
    · obtain ⟨u, hu, ht⟩ := List.mem_flatMap.mp hagain
      split at ht
      · cases ht
      · exact ih (hbody _ (hclear s hs) u hu) ht

/-- A loop keeps what its body and the forgetting of its groups keep. -/
theorem keeps_of_mem_loop {size least : Nat} {greedy : Bool} {more : State → Nat} {s t : State}
    (hs : P s) (h : t ∈ (exactlyEnds body clear size least s).flatMap fun u =>
      upToEnds body clear greedy (more u) u) : P t := by
  obtain ⟨u, hu, ht⟩ := List.mem_flatMap.mp h
  exact keeps_of_mem_upToEnds hbody hclear (keeps_of_mem_exactlyEnds hbody hclear hs hu) ht

end

/-- Read forward, a node moves forward and stays in the input. -/
theorem forward_of_mem_ends {node : Node} {s t : State} (h : t ∈ x.ends node false s) :
    x.Forward s t := by
  induction node generalizing s t with
  | empty =>
    obtain rfl := List.mem_singleton.mp h
    exact .refl _
  | unit | any | set => exact forward_of_matchUnit (Option.mem_toList.mp h)
  | backTo | backToName => exact forward_of_matchBack (Option.mem_toList.mp h)
  | atStart | atEnd | atBoundary =>
    rw [ends] at h
    split at h
    · obtain rfl := List.mem_singleton.mp h
      exact .refl _
    · cases h
  | capture group body ih =>
    obtain ⟨u, hu, rfl⟩ := List.mem_map.mp h
    have hforward := ih hu
    exact hforward
  | look direction negated body ih =>
    cases negated with
    | true =>
      rw [ends] at h
      split at h
      · obtain rfl := List.mem_singleton.mp h
        exact .refl _
      · cases h
    | false =>
      obtain ⟨u, _, rfl⟩ := List.mem_map.mp h
      exact .refl s
  | seq first second ih1 ih2 =>
    obtain ⟨u, hu, ht⟩ := List.mem_flatMap.mp h
    exact (ih1 hu).trans (ih2 ht)
  | alt first second ih1 ih2 =>
    rcases List.mem_append.mp h with h | h
    · exact ih1 h
    · exact ih2 h
  | loop times before upto body ih =>
    have hbody (u : State) (hu : x.Forward s u) : ∀ t ∈ x.ends body false u, x.Forward s t :=
      fun t ht => hu.trans (ih ht)
    have hclear (u : State) (hu : x.Forward s u) : x.Forward s (u.forget before upto) := by
      rw [Forward, State.forget_pos]
      exact hu
    exact keeps_of_mem_loop hbody hclear (.refl s) h

end Subject

end Gateway.Pattern
