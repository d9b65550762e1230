import Gateway.Pattern.Tree

/- How far the readers of a pattern text look. What each of them reads is the same with a
   bar or a slash behind the text: neither is a digit, opens or closes anything or goes on
   with something that has been begun. A reader that succeeds stays within the text, so it
   leaves what stands behind (`token_append_stop`), and a whole text is read as before, with
   one token more (`tokens_append_stop`). -/
namespace Gateway.Pattern

open Gateway.Text (CodeUnit)

/-- What separates alternatives. -/
def bar : CodeUnit := unit '|'

def slash : CodeUnit := unit '/'

/-- A unit that ends what stands before it and is a token of its own. -/
def IsStop (u : CodeUnit) : Prop := u = bar ∨ u = slash

namespace IsStop

variable {stop : CodeUnit} (hstop : IsStop stop)
include hstop

theorem ascii_cases : ascii stop = '|' ∨ ascii stop = '/' := by
  rcases hstop with rfl | rfl <;> decide

theorem hexValue_eq : hexValue stop = none := by
  rcases hstop with rfl | rfl <;> decide

theorem octalValue_eq : octalValue stop = none := by
  rcases hstop with rfl | rfl <;> decide

theorem isDigit_eq : isDigit stop = false := by
  rcases hstop with rfl | rfl <;> decide

theorem isLowSurrogate_eq : Text.isLowSurrogate stop = false := by
  rcases hstop with rfl | rfl <;> decide

end IsStop

theorem map_eq_ok_iff {ε α β : Type} {x : Except ε α} {g : α → β} {b : β} :
    x.map g = .ok b ↔ ∃ a, x = .ok a ∧ g a = b := by
  cases x <;> simp [Except.map]

theorem bind_eq_ok_iff {ε α β : Type} {x : Except ε α} {f : α → Except ε β} {b : β} :
    x >>= f = .ok b ↔ ∃ a, x = .ok a ∧ f a = .ok b := by
  cases x <;> simp [bind, Except.bind]

/-- A result with its number of units, taken apart. -/
theorem ok_pair_inj {α : Type} {a b : α} {m n : Nat} (h : (Except.ok (a, m) : Scan α) = .ok (b, n)) :
    a = b ∧ m = n := Prod.mk.inj (Except.ok.inj h)

/-! ## Places -/

variable {stop : CodeUnit}

theorem drop_append_singleton (a : CodeUnit) (n : Nat) (s : List CodeUnit) :
    (s ++ [a]).drop n = s.drop n ++ [a] ∨ (s ++ [a]).drop n = [] ∧ s.drop n = [] := by
  by_cases hn : n ≤ s.length
  · exact .inl (List.drop_append_of_le_length hn)
  · right
    have hlength : (s ++ [a]).length ≤ n := by
      rw [List.length_append, List.length_singleton]
      omega
    exact ⟨List.drop_eq_nil_of_le hlength, List.drop_eq_nil_of_le (by omega)⟩

/-- Another character stands at a place exactly if it stood there before. -/
theorem head?_drop_append_stop (hstop : IsStop stop) {c : Char} (hc : c ≠ '|' ∧ c ≠ '/') (n : Nat)
    (s : List CodeUnit) :
    (((s ++ [stop]).drop n).head?.map ascii = some c) = ((s.drop n).head?.map ascii = some c) := by
  rcases drop_append_singleton stop n s with h | ⟨h, h'⟩
  · have hne : ascii stop ≠ c := by
      rcases hstop.ascii_cases with h | h
      · exact h ▸ hc.1.symm
      · exact h ▸ hc.2.symm
    rw [h]
    cases s.drop n <;> simp [hne]
  · rw [h, h']

theorem lt_of_head?_drop {c : Char} {n : Nat} {s : List CodeUnit}
    (h : (s.drop n).head?.map ascii = some c) : n < s.length := by
  refine Nat.lt_of_not_le fun hge => ?_
  rw [List.drop_eq_nil_of_le hge] at h
  cases h

/-! ## Digits -/

theorem hexDigits_append_stop (hstop : IsStop stop) (n value : Nat) (s : List CodeUnit) :
    hexDigits n value (s ++ [stop]) = hexDigits n value s := by
  induction s generalizing n value with
  | nil => cases n <;> simp [hexDigits, hstop.hexValue_eq]
  | cons u rest ih =>
    cases n with
    | zero => simp [hexDigits]
    | succ n => simp [hexDigits, ih]

theorem hexDigits_le {n value result : Nat} {s : List CodeUnit}
    (h : hexDigits n value s = some result) : n ≤ s.length := by
  induction s generalizing n value with
  | nil =>
    cases n with
    | zero => exact Nat.le_refl 0
    | succ n => cases h
  | cons u rest ih =>
    cases n with
    | zero => exact Nat.zero_le _
    | succ n =>
      obtain ⟨d, _, hd⟩ := Option.bind_eq_some_iff.mp h
      simpa using ih hd

theorem octal_append_stop (hstop : IsStop stop) (first : Nat) (s : List CodeUnit) :
    octal first (s ++ [stop]) = octal first s := by
  rcases s with _ | ⟨u, _ | ⟨v, rest⟩⟩
  · simp [octal, hstop.octalValue_eq]
  · simp [octal, hstop.octalValue_eq]
  · rfl

theorem octal_le (first : Nat) (s : List CodeUnit) : (octal first s).2 ≤ s.length := by
  rcases s with _ | ⟨u, _ | ⟨v, rest⟩⟩
  · simp [octal]
  · simp only [octal]
    split <;> simp
  · simp only [octal]
    split
    · simp
    · split
      · split <;> simp
      · simp

theorem decimal_append_stop (hstop : IsStop stop) (s : List CodeUnit) :
    decimal (s ++ [stop]) = decimal s := by
  have hrun (value n : Nat) : decimalRun value n (s ++ [stop]) = decimalRun value n s := by
    induction s generalizing value n with
    | nil => simp [decimalRun, hstop.isDigit_eq]
    | cons u rest ih => simp [decimalRun, ih]
  exact hrun 0 0

theorem decimal_le (s : List CodeUnit) : (decimal s).2 ≤ s.length := by
  have hrun (value n : Nat) : (decimalRun value n s).2 ≤ n + s.length := by
    induction s generalizing value n with
    | nil => simp [decimalRun]
    | cons u rest ih =>
      unfold decimalRun
      rw [List.length_cons]
      split
      · have hle := ih (value * 10 + (u.toNat - 48)) (n + 1)
        omega
      · simp
  simpa [decimal] using hrun 0 0

/-! ## Escapes -/

theorem characterEscape_append_stop (hstop : IsStop stop) (census : Census) (inClass : Bool)
    (u : CodeUnit) (rest : List CodeUnit) :
    characterEscape census inClass u (rest ++ [stop]) = characterEscape census inClass u rest := by
  unfold characterEscape
  rw [hexDigits_append_stop hstop, hexDigits_append_stop hstop]
  simp only [octal_append_stop hstop]
  split <;> try rfl
  -- only the letter of a control character is looked at without a count
  cases rest with
  | nil => rcases hstop.ascii_cases with h | h <;> simp [h]
  | cons v rest => rfl

theorem characterEscape_le {census : Census} {inClass : Bool} {u value : CodeUnit}
    {rest : List CodeUnit} {n : Nat}
    (h : characterEscape census inClass u rest = .ok (value, n)) : n ≤ rest.length + 1 := by
  have hresult {a : CodeUnit} {m : Nat} (hm : m ≤ rest.length + 1)
      (h : (Except.ok (a, m) : Scan CodeUnit) = .ok (value, n)) : n ≤ rest.length + 1 := by
    rw [← (ok_pair_inj h).2]
    exact hm
  unfold characterEscape at h
  split at h
  case h_6 => -- `\c`
    split at h
    · dsimp only at h
      split at h
      · exact hresult (by simp) h
      · exact hresult (by simp) h
    · exact hresult (by simp) h
  case h_7 => -- `\x`
    split at h
    · next hvalue =>
      have hle := hexDigits_le hvalue
      exact hresult (by omega) h
    · exact hresult (by simp) h
  case h_8 => -- `\u`
    split at h
    · next hvalue =>
      have hle := hexDigits_le hvalue
      exact hresult (by omega) h
    · exact hresult (by simp) h
  case h_9 => -- `\k`
    split at h
    · cases h
    · exact hresult (by simp) h
  case h_10 => -- an octal number, or any other character
    cases hfirst : octalValue u with
    | some first =>
      have hle := octal_le first rest
      rw [hfirst] at h
      exact hresult (m := (octal first rest).2 + 1) (by omega) h
    | none =>
      rw [hfirst] at h
      exact hresult (m := 1) (by simp) h
  all_goals exact hresult (by simp) h

/-! ## Classes -/

theorem classEscape_append_stop (hstop : IsStop stop) (census : Census) (u : CodeUnit)
    (rest : List CodeUnit) :
    classEscape census u (rest ++ [stop]) = classEscape census u rest := by
  unfold classEscape
  rw [characterEscape_append_stop hstop]

/-- An escape does not end a class. -/
theorem classEscape_ne_closing {census : Census} {u : CodeUnit} {rest : List CodeUnit}
    {part : ClassPart} {m : Nat} (h : classEscape census u rest = .ok (part, m)) (n : Nat) :
    part ≠ .closing n := by
  rintro rfl
  unfold classEscape at h
  split at h
  · cases h
  · split at h
    · cases h
    · obtain ⟨r, _, hr⟩ := map_eq_ok_iff.mp h
      cases hr

/-- A class that is closed has its parts before what stands behind it. -/
theorem classParts_append_stop (hstop : IsStop stop) {census : Census} {s : List CodeUnit}
    {skip done n : Nat} (h : .closing n ∈ classParts census skip done s) :
    classParts census skip done (s ++ [stop]) = classParts census skip done s ∧
      n < done + s.length := by
  induction s generalizing skip done n with
  | nil => simp [classParts] at h
  | cons u rest ih =>
    rw [List.length_cons]
    cases skip with
    | succ skip =>
      rw [classParts] at h
      obtain ⟨happend, hlt⟩ := ih h
      rw [List.cons_append, classParts, classParts, happend]
      exact ⟨rfl, by omega⟩
    | zero =>
      rw [List.cons_append]
      unfold classParts at h ⊢
      split at h
      · obtain rfl : n = done := by simpa using h
        exact ⟨rfl, by omega⟩
      · obtain ⟨happend, hlt⟩ := ih (by simpa using h)
        exact ⟨by rw [happend], by omega⟩
      · cases rest with
        | nil => simp at h
        | cons v after =>
          dsimp only [List.cons_append] at h ⊢
          rw [classEscape_append_stop hstop]
          cases hpart : classEscape census v after with
          | error fault => simp [hpart] at h
          | ok r =>
            have hne := classEscape_ne_closing hpart n
            simp only [hpart] at h ⊢
            obtain ⟨happend, hlt⟩ := ih (by simpa [hne.symm] using h)
            rw [List.cons_append] at happend
            exact ⟨by rw [happend], by omega⟩
      · obtain ⟨happend, hlt⟩ := ih (by simpa using h)
        exact ⟨by rw [happend], by omega⟩

/-- What is read as the members of a class ends at its closing bracket. -/
theorem closing_mem_of_classItems {parts : List ClassPart} {items : List ClassItem} {n : Nat}
    (h : classItems parts = .ok (items, n)) : .closing n ∈ parts := by
  fun_induction classItems parts generalizing items with
  | case1 => cases h
  | case2 m rest =>
    obtain ⟨-, rfl⟩ := ok_pair_inj h
    exact List.mem_cons_self
  | case3 => cases h
  | case4 low m rest =>
    obtain ⟨-, rfl⟩ := ok_pair_inj h
    simp
  | case5 => cases h
  | case6 low high rest _ _ _ _ ih =>
    obtain ⟨range, _, h⟩ := bind_eq_ok_iff.mp h
    obtain ⟨r, hmore, h⟩ := bind_eq_ok_iff.mp h
    obtain ⟨-, rfl⟩ := ok_pair_inj h
    simp [ih hmore]
  | case7 part rest _ _ _ _ _ ih =>
    obtain ⟨r, hmore, h⟩ := bind_eq_ok_iff.mp h
    obtain ⟨-, rfl⟩ := ok_pair_inj h
    exact List.mem_cons_of_mem _ (ih hmore)

theorem classToken_append_stop (hstop : IsStop stop) {census : Census} {rest : List CodeUnit}
    {t : Token} {n : Nat} (h : classToken census rest = .ok (t, n)) :
    classToken census (rest ++ [stop]) = .ok (t, n) ∧ n ≤ rest.length := by
  have hread {done : Nat} {s : List CodeUnit} {g : List ClassItem × Nat → Token × Nat}
      (hg : ∀ r, (g r).2 = r.2 + 1)
      (h : (classItems (classParts census 0 done s)).map g = .ok (t, n)) :
      (classItems (classParts census 0 done (s ++ [stop]))).map g = .ok (t, n) ∧
        n ≤ done + s.length := by
    obtain ⟨r, hitems, hr⟩ := map_eq_ok_iff.mp h
    obtain ⟨happend, hlt⟩ := classParts_append_stop hstop (closing_mem_of_classItems hitems)
    have hn := hg r
    rw [hr] at hn
    exact ⟨by rw [happend, h], by omega⟩
  cases rest with
  | nil => cases h
  | cons u after =>
    unfold classToken at h ⊢
    rw [List.length_cons]
    dsimp only [List.cons_append] at h ⊢
    by_cases hcaret : ascii u = '^'
    · rw [if_pos hcaret] at h ⊢
      obtain ⟨happend, hle⟩ := hread (fun _ => rfl) h
      exact ⟨happend, by omega⟩
    · rw [if_neg hcaret] at h ⊢
      obtain ⟨happend, hle⟩ := hread (fun _ => rfl) h
      rw [List.length_cons] at hle
      exact ⟨happend, by omega⟩

/-! ## Names -/

theorem nameCode_braced_append_stop (hstop : IsStop stop) (s : List CodeUnit) :
    nameCode.braced (s ++ [stop]) = nameCode.braced s := by
  have hdigits : (s ++ [stop]).takeWhile (fun u => (hexValue u).isSome) =
      s.takeWhile fun u => (hexValue u).isSome := by
    induction s with
    | nil => simp [hstop.hexValue_eq]
    | cons u rest ih => simp [List.takeWhile_cons, ih]
  unfold nameCode.braced
  rw [hdigits]
  simp only [bne, Bool.or_eq_true, Bool.not_eq_true', beq_eq_false_iff_ne, ne_eq,
    head?_drop_append_stop hstop (c := '\x7d') (by decide)]

theorem nameCode_braced_le {s : List CodeUnit} {code n : Nat}
    (h : nameCode.braced s = .ok (code, n)) : n ≤ s.length + 3 := by
  unfold nameCode.braced at h
  dsimp only at h
  split at h
  · cases h
  · next hgood =>
    simp only [Bool.or_eq_true, not_or, bne_iff_ne, ne_eq, Classical.not_not] at hgood
    have hlt := lt_of_head?_drop hgood.2
    obtain ⟨-, rfl⟩ := ok_pair_inj h
    omega

theorem nameCode_plain_append_stop (hstop : IsStop stop) (s : List CodeUnit) :
    nameCode.plain (s ++ [stop]) = nameCode.plain s := by
  have hlow : hexDigits 4 0 ((s ++ [stop]).drop 6) = hexDigits 4 0 (s.drop 6) := by
    rcases drop_append_singleton stop 6 s with h | ⟨h, h'⟩
    · rw [h, hexDigits_append_stop hstop]
    · rw [h, h']
  unfold nameCode.plain
  rw [hexDigits_append_stop hstop, hlow]
  cases hexDigits 4 0 s with
  | none => rfl
  | some high =>
    rcases drop_append_singleton stop 4 s with h | ⟨h, h'⟩
    · rw [h]
      rcases s.drop 4 with _ | ⟨u, _ | ⟨v, rest⟩⟩
      · rcases hstop.ascii_cases with h | h <;> simp [h]
      · rcases hstop.ascii_cases with h | h <;> simp [h]
      · by_cases hu : ascii u = '\\' <;> by_cases hv : ascii v = 'u' <;> simp [hu, hv]
    · rw [h, h']

theorem nameCode_plain_le {s : List CodeUnit} {code n : Nat}
    (h : nameCode.plain s = .ok (code, n)) : n ≤ s.length + 2 := by
  unfold nameCode.plain at h
  cases hhigh : hexDigits 4 0 s with
  | none => simp [hhigh] at h
  | some high =>
    have hle := hexDigits_le hhigh
    simp only [hhigh] at h
    split at h
    · next low hlow =>
      -- the digits of a second escape have been found behind the first one
      have hten : 10 ≤ s.length := by
        split at hlow
        · have hle' := hexDigits_le hlow
          rw [List.length_drop] at hle'
          omega
        · cases hlow
      split at h
      · obtain ⟨-, rfl⟩ := ok_pair_inj h
        omega
      · obtain ⟨-, rfl⟩ := ok_pair_inj h
        omega
    · obtain ⟨-, rfl⟩ := ok_pair_inj h
      omega

theorem nameCode_append_stop (hstop : IsStop stop) (u : CodeUnit) (rest : List CodeUnit) :
    nameCode (u :: (rest ++ [stop])) = nameCode (u :: rest) := by
  unfold nameCode
  by_cases hu : ascii u = '\\'
  · simp only [hu, if_true]
    rcases rest with _ | ⟨v, _ | ⟨w, rest⟩⟩
    · rcases hstop.ascii_cases with h | h <;> simp [h]
    · have hplain := nameCode_plain_append_stop hstop []
      by_cases hv : ascii v = 'u'
      · rcases hstop.ascii_cases with h | h <;> simpa [hv, h] using hplain
      · rcases hstop.ascii_cases with h | h <;> simp [hv, h]
    · have hbraced := nameCode_braced_append_stop hstop rest
      have hplain := nameCode_plain_append_stop hstop (w :: rest)
      rw [List.cons_append] at hplain
      by_cases hv : ascii v = 'u' <;> by_cases hw : ascii w = '\x7b' <;>
        simp [hv, hw, hbraced, hplain]
  · simp only [hu, if_false]
    cases rest with
    | nil => simp [hstop.isLowSurrogate_eq]
    | cons v rest => simp

theorem nameCode_le {u : CodeUnit} {rest : List CodeUnit} {code n : Nat}
    (h : nameCode (u :: rest) = .ok (code, n)) : n ≤ rest.length + 1 := by
  unfold nameCode at h
  by_cases hu : ascii u = '\\'
  · simp only [hu, if_true] at h
    rcases rest with _ | ⟨v, _ | ⟨w, rest⟩⟩
    · cases h
    · by_cases hv : ascii v = 'u'
      · exact nameCode_plain_le (s := []) (by simpa [hv] using h)
      · simp [hv] at h
    · by_cases hv : ascii v = 'u' <;> by_cases hw : ascii w = '\x7b' <;> simp [hv, hw] at h
      · exact nameCode_braced_le h
      · exact nameCode_plain_le h
  · simp only [hu, if_false] at h
    cases rest with
    | nil =>
      obtain ⟨-, rfl⟩ := ok_pair_inj h
      simp
    | cons v rest =>
      dsimp only at h
      split at h
      · obtain ⟨-, rfl⟩ := ok_pair_inj h
        simp
      · obtain ⟨-, rfl⟩ := ok_pair_inj h
        simp

theorem nameFrom_append_stop (hstop : IsStop stop) {s : List CodeUnit} {skip : Nat} {begun : Bool}
    {name : GroupName} {n : Nat} (h : nameFrom skip begun s = .ok (name, n)) :
    nameFrom skip begun (s ++ [stop]) = .ok (name, n) ∧ n ≤ s.length := by
  induction s generalizing skip begun name n with
  | nil => cases skip <;> cases h
  | cons u rest ih =>
    cases skip with
    | succ skip =>
      rw [nameFrom] at h
      obtain ⟨r, hrest, hr⟩ := map_eq_ok_iff.mp h
      obtain ⟨happend, hle⟩ := ih hrest
      obtain ⟨rfl, rfl⟩ := Prod.mk.inj hr
      rw [List.cons_append, nameFrom, happend]
      exact ⟨rfl, by simpa using hle⟩
    | zero =>
      rw [nameFrom] at h
      rw [List.cons_append, nameFrom, nameCode_append_stop hstop]
      obtain ⟨⟨code, m⟩, hcode, h⟩ := bind_eq_ok_iff.mp h
      rw [hcode]
      dsimp only [bind, Except.bind] at h ⊢
      split at h
      · next hclose =>
        rw [if_pos hclose]
        obtain ⟨-, rfl⟩ := ok_pair_inj h
        exact ⟨h, nameCode_le hcode⟩
      · next hopen =>
        rw [if_neg hopen]
        by_cases hname :
            (if begun then Text.isIdentifierPart code else Text.isIdentifierStart code) = true
        · rw [if_pos hname] at h ⊢
          obtain ⟨r, hrest, hr⟩ := bind_eq_ok_iff.mp h
          obtain ⟨happend, hle⟩ := ih hrest
          obtain ⟨rfl, rfl⟩ := ok_pair_inj hr
          rw [happend]
          exact ⟨rfl, by simpa using hle⟩
        · rw [if_neg hname] at h
          cases h

/-- The same for what is made of a name. -/
theorem map_groupName_append_stop (hstop : IsStop stop) {s : List CodeUnit}
    {g : GroupName × Nat → Token × Nat} {b : Token × Nat} (h : (groupName s).map g = .ok b) :
    (groupName (s ++ [stop])).map g = .ok b ∧ ∃ r, r.2 ≤ s.length ∧ g r = b := by
  obtain ⟨r, hname, hr⟩ := map_eq_ok_iff.mp h
  obtain ⟨happend, hle⟩ := nameFrom_append_stop hstop hname
  refine ⟨?_, r, hle, hr⟩
  rw [groupName, happend]
  exact congrArg Except.ok hr

/-! ## Tokens -/

theorem openToken_append_stop (hstop : IsStop stop) {rest : List CodeUnit} {t : Token} {n : Nat}
    (h : openToken rest = .ok (t, n)) :
    openToken (rest ++ [stop]) = .ok (t, n) ∧ n ≤ rest.length := by
  have hmap : (rest ++ [stop]).map ascii = rest.map ascii ++ [ascii stop] := by simp
  have hlength : (rest.map ascii).length = rest.length := List.length_map ..
  unfold openToken at h ⊢
  rw [hmap]
  split at h
  case h_6 tail hahead hbehind heq => -- a name
    rw [heq] at hlength ⊢
    have htwo : 2 ≤ rest.length := by
      rw [← hlength]
      simp
    obtain ⟨happend, r, hle, hr⟩ := map_groupName_append_stop hstop h
    obtain ⟨-, rfl⟩ := Prod.mk.inj hr
    rw [List.length_drop] at hle
    rw [List.drop_append_of_le_length htwo]
    cases tail with
    | nil =>
      rcases hstop.ascii_cases with hs | hs <;> simpa [hs] using ⟨happend, by omega⟩
    | cons c more =>
      have hequal : c ≠ '=' := fun hc => hahead more (by rw [hc])
      have hbang : c ≠ '!' := fun hc => hbehind more (by rw [hc])
      simpa [hequal, hbang] using ⟨happend, by omega⟩
  case h_7 => cases h
  case h_8 heq => -- no question mark
    obtain ⟨rfl, rfl⟩ := ok_pair_inj h
    cases hrest : rest.map ascii with
    | nil => rcases hstop.ascii_cases with hs | hs <;> simp [hs]
    | cons c more =>
      have hne : c ≠ '?' := fun hc => heq more (by rw [hrest, hc])
      simp [hne]
  all_goals
    next heq =>
    rw [heq] at hlength ⊢
    obtain ⟨rfl, rfl⟩ := ok_pair_inj h
    refine ⟨rfl, ?_⟩
    rw [← hlength]
    simp

theorem backReference?_append_stop (hstop : IsStop stop) (census : Census) (u : CodeUnit)
    (rest : List CodeUnit) :
    backReference? census (u :: (rest ++ [stop])) = backReference? census (u :: rest) := by
  unfold backReference?
  rw [← List.cons_append, decimal_append_stop hstop]
  rfl

theorem backReference?_le {census : Census} {s : List CodeUnit} {node : Node} {n : Nat}
    (h : backReference? census s = some (node, n)) : n ≤ s.length := by
  unfold backReference? at h
  dsimp only at h
  split at h
  · obtain ⟨-, rfl⟩ := Prod.mk.inj (Option.some.inj h)
    exact decimal_le s
  · cases h

theorem escapeToken_append_stop (hstop : IsStop stop) {census : Census} {u : CodeUnit}
    {rest : List CodeUnit} {t : Token} {n : Nat} (h : escapeToken census u rest = .ok (t, n)) :
    escapeToken census u (rest ++ [stop]) = .ok (t, n) ∧ n ≤ rest.length + 1 := by
  unfold escapeToken at h ⊢
  rw [backReference?_append_stop hstop, characterEscape_append_stop hstop]
  split at h
  · obtain ⟨-, rfl⟩ := ok_pair_inj h
    exact ⟨h, by omega⟩
  · obtain ⟨-, rfl⟩ := ok_pair_inj h
    exact ⟨h, by omega⟩
  · by_cases hnamed : census.named = true
    · rw [if_pos hnamed] at h ⊢
      cases rest with
      | nil => cases h
      | cons v after =>
        dsimp only [List.cons_append] at h ⊢
        by_cases hopen : ascii v = '<'
        · rw [if_pos hopen] at h ⊢
          obtain ⟨happend, r, hle, hr⟩ := map_groupName_append_stop hstop h
          obtain ⟨-, rfl⟩ := Prod.mk.inj hr
          rw [List.length_cons]
          exact ⟨happend, by omega⟩
        · rw [if_neg hopen] at h
          cases h
    · rw [if_neg hnamed] at h ⊢
      obtain ⟨-, rfl⟩ := ok_pair_inj h
      exact ⟨h, by omega⟩
  · refine ⟨h, ?_⟩
    split at h
    · obtain ⟨-, rfl⟩ := ok_pair_inj h
      omega
    · next hback =>
      obtain ⟨-, rfl⟩ := ok_pair_inj h
      simpa using backReference?_le hback
    · obtain ⟨r, hvalue, hr⟩ := map_eq_ok_iff.mp h
      obtain ⟨-, rfl⟩ := Prod.mk.inj hr
      exact characterEscape_le hvalue

theorem interval?_append_stop (hstop : IsStop stop) (s : List CodeUnit) :
    interval? (s ++ [stop]) = interval? s := by
  unfold interval?
  rw [decimal_append_stop hstop]
  split
  · rfl
  · rename_i min n _ _
    have hmax : decimal ((s ++ [stop]).drop (n + 1)) = decimal (s.drop (n + 1)) := by
      rcases drop_append_singleton stop (n + 1) s with h | ⟨h, h'⟩
      · rw [h, decimal_append_stop hstop]
      · rw [h, h']
    simp only [hmax, head?_drop_append_stop hstop (c := '\x7d') (by decide)]
    rcases drop_append_singleton stop n s with h | ⟨h, h'⟩
    · rw [h]
      rcases hd : s.drop n with _ | ⟨u, _ | ⟨v, rest⟩⟩
      · rcases hstop.ascii_cases with hs | hs <;> simp [hs]
      · -- a comma at the end is followed by no bound and no brace
        have hn : s.drop (n + 1) = [] := by
          rw [← List.drop_drop, hd]
          rfl
        by_cases hclose : ascii u = '\x7d'
        · simp [hclose]
        · rcases hstop.ascii_cases with hs | hs <;> by_cases hu : ascii u = ',' <;>
            simp [hclose, hu, hs, hn]
      · by_cases hclose : ascii u = '\x7d'
        · simp [hclose]
        · by_cases hu : ascii u = ',' <;> by_cases hv : ascii v = '\x7d' <;>
            simp [hclose, hu, hv]
    · rw [h, h']

theorem interval?_le {s : List CodeUnit} {min n : Nat} {max : Option Nat}
    (h : interval? s = some (min, max, n)) : n ≤ s.length := by
  have hresult {a b : Nat} {c d : Option Nat} {m : Nat} (hm : m ≤ s.length)
      (h : some (a, c, m) = some (b, d, n)) : n ≤ s.length := by
    obtain ⟨-, hn⟩ := Prod.mk.inj (Option.some.inj h)
    rw [← (Prod.mk.inj hn).2]
    exact hm
  unfold interval? at h
  split at h
  · cases h
  · rename_i least k _ _
    have hlength : ((s.drop k).map ascii).length = s.length - k := by simp
    split at h
    · next heq =>
      rw [heq, List.length_cons] at hlength
      exact hresult (by omega) h
    · next heq =>
      rw [heq, List.length_cons, List.length_cons] at hlength
      exact hresult (by omega) h
    · dsimp only at h
      split at h
      · next hclose =>
        have hlt := lt_of_head?_drop hclose
        exact hresult (by omega) h
      · cases h
    · cases h

theorem quantifierToken_append_stop (hstop : IsStop stop) (min : Nat) (max : Option Nat) (n : Nat)
    (rest : List CodeUnit) :
    quantifierToken min max n (rest ++ [stop]) = quantifierToken min max n rest := by
  unfold quantifierToken
  simp only [head?_drop_append_stop hstop (c := '?') (by decide)]

theorem quantifierToken_le {min : Nat} {max : Option Nat} {n : Nat} {rest : List CodeUnit}
    (h : n ≤ rest.length) : (quantifierToken min max n rest).2 ≤ rest.length := by
  unfold quantifierToken
  split
  · next hlazy => exact lt_of_head?_drop hlazy
  · exact h

/-- A token that can be read is the same with a bar or a slash behind the text, and it leaves
    that. -/
theorem token_append_stop (hstop : IsStop stop) {census : Census} {u : CodeUnit} {rest : List CodeUnit}
    {t : Token} {n : Nat} (h : token census u rest = .ok (t, n)) :
    token census u (rest ++ [stop]) = .ok (t, n) ∧ n ≤ rest.length := by
  have hquantifier {min : Nat} {max : Option Nat} {k : Nat} (hk : k ≤ rest.length)
      (h : (Except.ok (quantifierToken min max k rest) : Scan Token) = .ok (t, n)) :
      (Except.ok (quantifierToken min max k rest) : Scan Token) = .ok (t, n) ∧
        n ≤ rest.length := by
    have hle : (quantifierToken min max k rest).2 ≤ rest.length := quantifierToken_le hk
    rw [Except.ok.inj h] at hle
    exact ⟨h, hle⟩
  unfold token at h ⊢
  simp only [quantifierToken_append_stop hstop, interval?_append_stop hstop]
  split at h
  case h_6 => exact hquantifier (Nat.zero_le _) h
  case h_7 => exact hquantifier (Nat.zero_le _) h
  case h_8 => exact hquantifier (Nat.zero_le _) h
  case h_9 => -- a brace
    cases hbounds : interval? rest with
    | none =>
      rw [hbounds] at h
      obtain ⟨rfl, rfl⟩ := ok_pair_inj h
      exact ⟨rfl, Nat.zero_le _⟩
    | some bounds =>
      rw [hbounds] at h
      exact hquantifier (interval?_le hbounds) h
  case h_10 => exact openToken_append_stop hstop h
  case h_11 => exact classToken_append_stop hstop h
  case h_12 => -- a backslash
    cases rest with
    | nil => cases h
    | cons v after => simpa using escapeToken_append_stop hstop h
  all_goals
    obtain ⟨rfl, rfl⟩ := ok_pair_inj h
    exact ⟨rfl, Nat.zero_le _⟩

/-! ## Whole texts -/

theorem addOpen_append_stop (hstop : IsStop stop) (rest : List CodeUnit) (c : Census) :
    Census.addOpen (rest ++ [stop]) c = Census.addOpen rest c := by
  rcases hstop.ascii_cases with hs | hs
  all_goals
    rcases rest with _ | ⟨u, _ | ⟨v, _ | ⟨w, rest⟩⟩⟩
    · simp [Census.addOpen, hs]
    · by_cases hu : ascii u = '?' <;> simp [Census.addOpen, hs, hu]
    · by_cases hu : ascii u = '?' <;> by_cases hv : ascii v = '<' <;>
        simp [Census.addOpen, hs, hu, hv]
    · by_cases hu : ascii u = '?' <;> by_cases hv : ascii v = '<' <;>
        by_cases hequal : ascii w = '=' <;> by_cases hbang : ascii w = '!' <;>
        simp [Census.addOpen, hu, hv, hequal, hbang]

theorem count_append_stop (hstop : IsStop stop) (inClass : Bool) (s : List CodeUnit) :
    Census.count inClass (s ++ [stop]) = Census.count inClass s := by
  fun_induction Census.count inClass s with
  | case1 inClass => rcases hstop.ascii_cases with hs | hs <;> simp [Census.count, hs]
  | case2 inClass u hopen =>
    simp only [Bool.and_eq_true, decide_eq_true_eq, Bool.not_eq_true'] at hopen
    rcases hstop.ascii_cases with hs | hs <;> simp [Census.count, hs, hopen, Census.addOpen]
  | case3 inClass u hopen =>
    simp only [Bool.and_eq_true, decide_eq_true_eq, Bool.not_eq_true', not_and] at hopen
    by_cases hescape : ascii u = '\\'
    · simp [Census.count, hescape]
    · by_cases hparen : ascii u = '('
      · simp [Census.count, hparen, hopen hparen]
      · rcases hstop.ascii_cases with hs | hs <;> simp [Census.count, hs, hescape, hparen]
  | case4 inClass u v rest hescape ih => simpa [Census.count, hescape] using ih
  | case5 u v rest hescape ih => simpa [Census.count, hescape] using ih
  | case6 inClass u v rest hescape hin hclass ih =>
    simpa [Census.count, hescape, hin, hclass] using ih
  | case7 inClass u v rest hescape hin hclass hparen ih =>
    have hopen := addOpen_append_stop hstop (v :: rest)
    rw [List.cons_append] at hopen ih
    simp [Census.count, hin, hparen, ih, hopen]
  | case8 inClass u v rest hescape hin hclass hparen ih =>
    simpa [Census.count, hescape, hin, hclass, hparen] using ih

theorem tokensFrom_append_stop (hstop : IsStop stop) {census : Census} {s : List CodeUnit}
    {skip : Nat} (hskip : skip ≤ s.length)
    (hgood : ∀ fault, .bad fault ∉ tokensFrom census skip s) :
    tokensFrom census skip (s ++ [stop]) =
      tokensFrom census skip s ++ tokensFrom census 0 [stop] := by
  induction s generalizing skip with
  | nil =>
    obtain rfl : skip = 0 := by simpa using hskip
    rfl
  | cons u rest ih =>
    cases skip with
    | succ skip => exact ih (by simpa using hskip) hgood
    | zero =>
      rw [List.cons_append, tokensFrom, tokensFrom]
      rw [tokensFrom] at hgood
      cases htoken : token census u rest with
      | error fault =>
        rw [htoken] at hgood
        exact absurd List.mem_cons_self (hgood fault)
      | ok r =>
        obtain ⟨happend, hle⟩ := token_append_stop hstop htoken
        rw [htoken] at hgood
        rw [happend]
        have hrest := ih hle fun fault hmem => hgood fault (List.mem_cons_of_mem _ hmem)
        exact congrArg (r.1 :: ·) hrest

/-- A text that can be read has one token more with a bar or a slash behind it. -/
theorem tokens_append_stop (hstop : IsStop stop) {source : List CodeUnit}
    (hgood : ∀ fault, .bad fault ∉ tokens source) :
    tokens (source ++ [stop]) = tokens source ++ tokensFrom (Census.of source) 0 [stop] := by
  unfold tokens Census.of at hgood ⊢
  rw [count_append_stop hstop]
  exact tokensFrom_append_stop hstop (Nat.zero_le _) hgood

end Gateway.Pattern
