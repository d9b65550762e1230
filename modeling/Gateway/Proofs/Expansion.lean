import Gateway.Proofs.Text.Pieces
import Gateway.Rewrite

/- Filling a template in rounds. The round for a group puts its text in wherever its token
   stands, also in what the rounds before have put in. Reading the template once instead, it
   is a list of parts (`items`), and as long as no text that is put in before the last round
   looks like a token, each round fills the parts of its group (`replaceAll_stage`) and all of
   them give what one reading gives. For a template that holds any of these groups, there are
   texts for which they do not (`expand_eq_fill_iff`). -/
namespace Gateway.Rewrite

open Gateway.Text (CodeUnit)
open Gateway.Pattern (isDigit)

/-! ## Tokens -/

def dollar : CodeUnit := Pattern.unit '$'

def digit (d : Nat) : CodeUnit := Pattern.unit (Nat.digitChar d)

theorem token_of_lt_ten {d : Nat} (h : d < 10) : token d = [dollar, digit d] := by
  decide +revert

theorem digit_inj : ∀ d < 10, ∀ e < 10, digit d = digit e → d = e := by decide

theorem isDigit_digit {d : Nat} (h : d < 10) : isDigit (digit d) = true := by
  decide +revert

theorem dollar_ne_digit {d : Nat} (h : d < 10) : dollar ≠ digit d := by
  decide +revert

theorem isDigit_dollar : isDigit dollar = false := by decide

/-- The token of a group begins with that of its leading digit. -/
theorem exists_leading (i : Nat) : ∃ d < 10, d ≤ i ∧ token d <+: token i := by
  induction i using Nat.strong_induction_on with
  | _ i ih =>
    by_cases h : i < 10
    · exact ⟨i, h, Nat.le_refl i, List.prefix_refl _⟩
    · obtain ⟨d, hd, hle, hprefix⟩ := ih (i / 10) (by omega)
      refine ⟨d, hd, by omega, hprefix.trans ?_⟩
      have hdigits : token i = token (i / 10) ++ Text.toUnits [Nat.digitChar (i % 10)] := by
        rw [token, Nat.toDigits_of_base_le (by decide) (by omega), ← List.cons_append,
          Text.toUnits_append, token]
      rw [hdigits]
      exact List.prefix_append _ _

/-- A token begins with a dollar and a digit of a group that is not above its own. -/
theorem exists_token_eq (i : Nat) :
    ∃ d < 10, d ≤ i ∧ ∃ more, token i = dollar :: digit d :: more := by
  obtain ⟨d, hd, hle, more, hmore⟩ := exists_leading i
  rw [token_of_lt_ten hd] at hmore
  exact ⟨d, hd, hle, more, hmore.symm⟩

theorem token_ne_nil (i : Nat) : token i ≠ [] := by
  obtain ⟨d, -, -, more, htoken⟩ := exists_token_eq i
  rw [htoken]
  exact List.cons_ne_nil _ _

/-! ## What is put in -/

/-- What a group captured; nothing if it took no part. -/
def groupText (groups : List (Option (List CodeUnit))) (i : Nat) : List CodeUnit :=
  (groups[i]?).join.getD []

theorem mem_expand {template : List CodeUnit} {groups : List (Option (List CodeUnit))}
    {count : Nat} {u : CodeUnit} (h : u ∈ expand template groups count) :
    u ∈ template ∨ ∃ i, u ∈ groupText groups i := by
  unfold expand at h
  generalize count + 1 = rounds at h
  induction rounds with
  | zero => exact .inl h
  | succ k ih =>
    rw [List.range_succ, List.foldl_append] at h
    rcases Text.mem_replaceAll (token_ne_nil k) h with h | h
    · exact ih h
    · exact .inr ⟨k, h⟩

/-- What stands before the first dollar is kept. -/
theorem expand_append {front : List CodeUnit} (h : dollar ∉ front) (s : List CodeUnit)
    (groups : List (Option (List CodeUnit))) (count : Nat) :
    expand (front ++ s) groups count = front ++ expand s groups count := by
  unfold expand
  induction count + 1 with
  | zero => rfl
  | succ k ih =>
    obtain ⟨d, -, -, more, htoken⟩ := exists_token_eq k
    rw [List.range_succ, List.foldl_append, List.foldl_append, ih]
    show Text.replaceAll (token k) _ _ = front ++ Text.replaceAll (token k) _ _
    rw [htoken, Text.replaceAll_append_of_not_mem h]

/-! ## Reading a template once -/

/-- A part of a template. -/
inductive Item
  | copied (u : CodeUnit)
  | group (i : Nat)
deriving Repr, DecidableEq

/-- The lowest of the groups whose token stands at the front. -/
def frontGroup? (count : Nat) (s : List CodeUnit) : Option Nat :=
  (List.range (count + 1)).find? fun i => (token i).isPrefixOf s

/-- The parts of a template, where the first `skip` units are the rest of a token that has been
    found. -/
def itemsFrom (count : Nat) : (skip : Nat) → List CodeUnit → List Item
  | _, [] => []
  | skip + 1, _ :: rest => itemsFrom count skip rest
  | 0, u :: rest =>
    match frontGroup? count (u :: rest) with
    | some i => .group i :: itemsFrom count ((token i).length - 1) rest
    | Option.none => .copied u :: itemsFrom count 0 rest

/-- The parts of a template for so many groups, found from the left. -/
def items (count : Nat) (template : List CodeUnit) : List Item := itemsFrom count 0 template

/-- A text for each group in its place. -/
def assemble (text : Nat → List CodeUnit) (its : List Item) : List CodeUnit :=
  its.flatMap fun
    | .copied u => [u]
    | .group i => text i

theorem assemble_group (text : Nat → List CodeUnit) (i : Nat) (its : List Item) :
    assemble text (.group i :: its) = text i ++ assemble text its := rfl

/-- The template read once from the left, with the text of its group for each token. -/
def fill (template : List CodeUnit) (groups : List (Option (List CodeUnit))) (count : Nat) :
    List CodeUnit :=
  assemble (groupText groups) (items count template)

theorem frontGroup?_eq_some {count i : Nat} {s : List CodeUnit} (h : frontGroup? count s = some i) :
    i ≤ count ∧ i < 10 ∧ token i <+: s := by
  obtain ⟨hfront, hmem, hlowest⟩ := List.find?_range_eq_some.mp h
  rw [List.isPrefixOf_iff_prefix] at hfront
  refine ⟨Nat.lt_succ_iff.mp (List.mem_range.mp hmem), ?_, hfront⟩
  -- the token of the leading digit stands there too
  obtain ⟨d, hd, hle, hleading⟩ := exists_leading i
  rcases Nat.eq_or_lt_of_le hle with rfl | hlt
  · exact hd
  · have hother := hlowest d hlt
    rw [Bool.not_eq_true', ← Bool.not_eq_true, List.isPrefixOf_iff_prefix] at hother
    exact absurd (hleading.trans hfront) hother

theorem frontGroup?_eq_none {count : Nat} {s : List CodeUnit} (h : frontGroup? count s = Option.none)
    {i : Nat} (hi : i ≤ count) : ¬token i <+: s := by
  have hother := List.find?_range_eq_none.mp h i (Nat.lt_succ_of_le hi)
  rwa [Bool.not_eq_true', ← Bool.not_eq_true, List.isPrefixOf_iff_prefix] at hother

/-- How a template is taken apart: by one token or by one unit where there is none. -/
inductive Reads (count : Nat) : List CodeUnit → List Item → Prop
  | done : Reads count [] []
  | group {i : Nat} {s : List CodeUnit} {its : List Item} (hle : i ≤ count) (hlt : i < 10)
    (h : Reads count s its) : Reads count (token i ++ s) (.group i :: its)
  | copied {u : CodeUnit} {s : List CodeUnit} {its : List Item}
    (hother : ∀ i ≤ count, ¬token i <+: u :: s) (h : Reads count s its) :
    Reads count (u :: s) (.copied u :: its)

theorem reads_itemsFrom (count skip : Nat) (s : List CodeUnit) :
    Reads count (s.drop skip) (itemsFrom count skip s) := by
  induction s generalizing skip with
  | nil =>
    rw [List.drop_nil]
    cases skip <;> exact .done
  | cons u rest ih =>
    cases skip with
    | succ skip => exact ih skip
    | zero =>
      rw [List.drop_zero, itemsFrom]
      cases h : frontGroup? count (u :: rest) with
      | none => exact .copied (fun i hi => frontGroup?_eq_none h hi) (ih 0)
      | some i =>
        obtain ⟨hle, hlt, s, hs⟩ := frontGroup?_eq_some h
        have hrest := ih ((token i).length - 1)
        dsimp only
        rw [token_of_lt_ten hlt] at hs hrest ⊢
        obtain ⟨rfl, rfl⟩ := List.cons.inj hs
        have hgroup := Reads.group hle hlt hrest
        rw [token_of_lt_ten hlt] at hgroup
        exact hgroup

theorem Reads.lt_ten {count i : Nat} {s : List CodeUnit} {its : List Item}
    (h : Reads count s its) (hmem : .group i ∈ its) : i < 10 := by
  induction h with
  | done => cases hmem
  | copied _ _ ih =>
    rcases List.mem_cons.mp hmem with heq | hmem
    · cases heq
    · exact ih hmem
  | group _ hlt _ ih =>
    rcases List.mem_cons.mp hmem with heq | hmem
    · cases heq
      exact hlt
    · exact ih hmem

theorem reads_items (count : Nat) (template : List CodeUnit) :
    Reads count template (items count template) := reads_itemsFrom count 0 template

example : items 1 (Text.toUnits "$10".toList) = [.group 1, .copied (digit 0)] := by decide

/-! ## One round -/

/-- The texts of the groups below `k`; the others are written as their tokens. -/
def stage (text : Nat → List CodeUnit) (k i : Nat) : List CodeUnit :=
  if i < k then text i else token i

/-- The texts that are put in before the last round make no token: they hold none, and neither
    their last unit nor a dollar of the template in front of them begins one. -/
structure Inert (text : Nat → List CodeUnit) (count : Nat) (its : List Item) : Prop where
  no_token : ∀ i < count, .group i ∈ its → ∀ j ≤ count, ¬token j <:+: text i
  no_dollar : ∀ i < count, .group i ∈ its → (text i).getLast? ≠ some dollar
  no_digit : ∀ i < count, [.copied dollar, .group i] <:+: its →
    ∃ u rest, text i = u :: rest ∧ isDigit u = false

variable {text : Nat → List CodeUnit} {count : Nat} {s : List CodeUnit} {its : List Item}

theorem Inert.tail {it : Item} (h : Inert text count (it :: its)) : Inert text count its where
  no_token i hi hmem := h.no_token i hi (List.mem_cons_of_mem it hmem)
  no_dollar i hi hmem := h.no_dollar i hi (List.mem_cons_of_mem it hmem)
  no_digit i hi hinfix := h.no_digit i hi (List.infix_cons hinfix)

/-- What is filled so far does not go on with a digit behind a dollar of the template. -/
theorem not_digit_prefix (h : Reads count s its) {k d : Nat} (hk : k ≤ count) (hd : d < 10)
    (hinert : Inert text count (.copied dollar :: its)) (hother : ¬token d <+: dollar :: s)
    (more : List CodeUnit) : ¬digit d :: more <+: assemble (stage text k) its := by
  have hne {u : CodeUnit} (hu : isDigit u = false) : digit d ≠ u := by
    rintro rfl
    rw [isDigit_digit hd] at hu
    cases hu
  cases h with
  | done => exact fun hprefix => List.cons_ne_nil _ _ (List.prefix_nil.mp hprefix)
  | copied _ _ =>
    intro hprefix
    obtain ⟨rfl, -⟩ := List.cons_prefix_cons.mp hprefix
    rw [token_of_lt_ten hd] at hother
    exact hother (List.prefix_append _ _)
  | @group i s its hle hlt _ =>
    intro hprefix
    rw [assemble_group, stage] at hprefix
    split at hprefix
    · next hik =>
      have hfront : [.copied dollar, .group i] <:+: .copied dollar :: .group i :: its :=
        (List.prefix_append [_, _] its).isInfix
      obtain ⟨u, rest, htext, hu⟩ := hinert.no_digit i (by omega) hfront
      rw [htext] at hprefix
      exact hne hu (List.cons_prefix_cons.mp hprefix).1
    · rw [token_of_lt_ten hlt] at hprefix
      exact hne isDigit_dollar (List.cons_prefix_cons.mp hprefix).1

/-- A text that makes no token is kept. -/
theorem replaceAll_inert_text {d : Nat} {t : List CodeUnit} (htoken : ¬[dollar, digit d] <:+: t)
    (hend : t.getLast? ≠ some dollar) (more new s : List CodeUnit) :
    Text.replaceAll (dollar :: digit d :: more) new (t ++ s) =
      t ++ Text.replaceAll (dollar :: digit d :: more) new s := by
  induction t with
  | nil => rfl
  | cons a t ih =>
    have hnot : ¬dollar :: digit d :: more <+: a :: (t ++ s) := by
      intro hprefix
      obtain ⟨rfl, hdigit⟩ := List.cons_prefix_cons.mp hprefix
      cases t with
      | nil => exact hend rfl
      | cons b t =>
        obtain ⟨rfl, -⟩ := List.cons_prefix_cons.mp hdigit
        exact htoken (List.prefix_append [_, _] t).isInfix
    have hrest : t.getLast? ≠ some dollar := by
      cases t with
      | nil => simp
      | cons b t => rwa [List.getLast?_cons_cons] at hend
    have hcons := Text.replaceAll_cons hnot new
    rw [ih (fun hinfix => htoken (List.infix_cons hinfix)) hrest] at hcons
    exact hcons

/-- A token of a later round is passed over. -/
theorem replaceAll_other_token {k i : Nat} (hki : k < i) (hi : i < 10) (new s : List CodeUnit) :
    Text.replaceAll (token k) new (token i ++ s) = token i ++ Text.replaceAll (token k) new s := by
  have hk : k < 10 := Nat.lt_trans hki hi
  have hdigit : dollar ∉ [digit i] := by
    rw [List.mem_singleton]
    exact dollar_ne_digit hi
  have hnot : ¬token k <+: dollar :: ([digit i] ++ s) := by
    rw [token_of_lt_ten hk]
    intro hprefix
    have htail := (List.cons_prefix_cons.mp hprefix).2
    have heq := digit_inj k hk i hi (List.cons_prefix_cons.mp htail).1
    omega
  rw [token_of_lt_ten hi]
  refine (Text.replaceAll_cons hnot new).trans (congrArg (List.cons dollar) ?_)
  rw [token_of_lt_ten hk]
  exact Text.replaceAll_append_of_not_mem hdigit _ _ _

/-- The round for a group fills the parts of the group and no other text. -/
theorem replaceAll_stage (h : Reads count s its) {k : Nat} (hk : k ≤ count)
    (hinert : Inert text count its) :
    Text.replaceAll (token k) (text k) (assemble (stage text k) its) =
      assemble (stage text (k + 1)) its := by
  obtain ⟨d, hd, hdk, more, htoken⟩ := exists_token_eq k
  induction h with
  | done => exact Text.replaceAll_nil _ _
  | @copied u s its hother h ih =>
    have hnot : ¬token k <+: u :: assemble (stage text k) its := by
      rw [htoken]
      intro hprefix
      obtain ⟨rfl, hdigit⟩ := List.cons_prefix_cons.mp hprefix
      exact not_digit_prefix h hk hd hinert (hother d (by omega)) more hdigit
    have hcons := Text.replaceAll_cons hnot (text k)
    rw [ih hinert.tail] at hcons
    exact hcons
  | @group i s its hle hlt h ih =>
    have hrest := ih hinert.tail
    rw [assemble_group, assemble_group, ← hrest]
    rcases Nat.lt_trichotomy i k with hik | rfl | hki
    · -- filled in an earlier round
      have hno := hinert.no_token i (by omega) List.mem_cons_self d (by omega)
      have hend := hinert.no_dollar i (by omega) List.mem_cons_self
      rw [token_of_lt_ten hd] at hno
      rw [stage, if_pos hik, stage, if_pos (by omega), htoken]
      exact replaceAll_inert_text hno hend _ _ _
    · rw [stage, if_neg (Nat.lt_irrefl i), stage, if_pos (Nat.lt_succ_self i)]
      exact Text.replaceAll_append (token_ne_nil i) _ _
    · rw [stage, if_neg (by omega), stage, if_neg (by omega)]
      exact replaceAll_other_token hki hlt _ _

/-! ## All rounds -/

theorem assemble_stage_zero (h : Reads count s its) : assemble (stage text 0) its = s := by
  induction h with
  | done => rfl
  | copied _ _ ih => exact congrArg (List.cons _) ih
  | group _ _ _ ih => exact congrArg (token _ ++ ·) ih

theorem assemble_stage_last (h : Reads count s its) :
    assemble (stage text (count + 1)) its = assemble text its := by
  induction h with
  | done => rfl
  | copied _ _ ih => exact congrArg (List.cons _) ih
  | @group i s its hle _ _ ih =>
    have hstage : stage text (count + 1) i = text i := if_pos (by omega)
    exact congrArg₂ (· ++ ·) hstage ih

theorem foldl_replaceAll_eq_stage (h : Reads count s its) (hinert : Inert text count its) {k : Nat}
    (hk : k ≤ count + 1) :
    (List.range k).foldl (fun t i => Text.replaceAll (token i) (text i) t) s =
      assemble (stage text k) its := by
  induction k with
  | zero => exact (assemble_stage_zero h).symm
  | succ k ih =>
    rw [List.range_succ, List.foldl_append, ih (by omega)]
    exact replaceAll_stage h (by omega) hinert

theorem expand_eq_fill_of_inert {template : List CodeUnit} {groups : List (Option (List CodeUnit))}
    (h : Inert (groupText groups) count (items count template)) :
    expand template groups count = fill template groups count := by
  have hreads := reads_items count template
  exact (foldl_replaceAll_eq_stage hreads h (Nat.le_refl _)).trans (assemble_stage_last hreads)

/-! ## Texts that are read again -/

def letter : CodeUnit := Pattern.unit 'x'

theorem letter_not_mem_token : ∀ i ≤ 10, letter ∉ token i := by decide

/-- The token of the next group for group `i`, and a letter for every other one. -/
def rereadGroups (i count : Nat) : List (Option (List CodeUnit)) :=
  (List.range (count + 1)).map fun j => some (if j = i then token (i + 1) else [letter])

theorem groupText_rereadGroups (i : Nat) {j : Nat} (hj : j ≤ count) :
    groupText (rereadGroups i count) j = if j = i then token (i + 1) else [letter] := by
  simp [groupText, rereadGroups, List.getElem?_range (Nat.lt_succ_of_le hj)]

/-- The round for the next group leaves no token of its own, and no later one brings it back. -/
theorem not_infix_foldl_replaceAll {i : Nat} (hi : i < 10)
    (htext : ∀ j ≤ count, i < j → text j = [letter]) (template : List CodeUnit) {k : Nat}
    (hik : i + 1 < k) (hk : k ≤ count + 1) :
    ¬token (i + 1) <:+:
      (List.range k).foldl (fun t j => Text.replaceAll (token j) (text j) t) template := by
  have hletter := letter_not_mem_token (i + 1) (by omega)
  induction k with
  | zero => omega
  | succ k ih =>
    rw [List.range_succ, List.foldl_append, List.foldl_cons, List.foldl_nil,
      htext k (by omega) (by omega)]
    rcases Nat.eq_or_lt_of_le (Nat.le_of_lt_succ hik) with rfl | hlt
    · exact Text.not_infix_replaceAll_self (token_ne_nil _) hletter _
    · exact Text.not_infix_replaceAll (token_ne_nil k) hletter (token_ne_nil _) (ih hlt (by omega))

theorem infix_assemble (text : Nat → List CodeUnit) {i : Nat} (h : .group i ∈ its) :
    text i <:+: assemble text its := by
  obtain ⟨front, back, rfl⟩ := List.append_of_mem h
  refine ⟨assemble text front, assemble text back, ?_⟩
  rw [List.append_assoc, ← assemble_group]
  exact List.flatMap_append.symm

theorem expand_ne_fill {template : List CodeUnit} {i : Nat} (hi : i < count)
    (h : .group i ∈ items count template) :
    expand template (rereadGroups i count) count ≠ fill template (rereadGroups i count) count := by
  intro heq
  have hi10 : i < 10 := (reads_items count template).lt_ten h
  have htext (j : Nat) (hj : j ≤ count) (hij : i < j) :
      groupText (rereadGroups i count) j = [letter] := by
    rw [groupText_rereadGroups i hj, if_neg (by omega)]
  have hfill : groupText (rereadGroups i count) i <:+:
      fill template (rereadGroups i count) count := infix_assemble _ h
  rw [groupText_rereadGroups i (Nat.le_of_lt hi), if_pos rfl, ← heq] at hfill
  exact not_infix_foldl_replaceAll hi10 htext template (by omega) (Nat.le_refl _) hfill

/-- Filling in rounds is reading once, whatever is put in, exactly if the template holds no
    group but the last one. For given texts it is if those of the other groups hold no token
    and make none with what stands around them. -/
theorem expand_eq_fill_iff (template : List CodeUnit) (count : Nat) :
    ((∀ groups, expand template groups count = fill template groups count) ↔
      ∀ i < count, .group i ∉ items count template) ∧
    ∀ groups, Inert (groupText groups) count (items count template) →
      expand template groups count = fill template groups count := by
  refine ⟨⟨fun h i hi hmem => expand_ne_fill hi hmem (h _), fun h groups => ?_⟩,
    fun groups => expand_eq_fill_of_inert⟩
  refine expand_eq_fill_of_inert ⟨fun i hi hmem => absurd hmem (h i hi),
    fun i hi hmem => absurd hmem (h i hi), fun i hi hpair => ?_⟩
  exact absurd (hpair.subset (by simp)) (h i hi)

/-- What a pattern with one group captures in a path with a token. -/
def tokenGroups : List (Option (List CodeUnit)) :=
  [some (Text.toUnits "/a$1".toList), some (Text.toUnits "a$1".toList)]

/-- The token in the whole match is read again. -/
theorem captured_token_expanded :
    expand (Text.toUnits "$0".toList) tokenGroups 1 = Text.toUnits "/aa$1".toList ∧
    fill (Text.toUnits "$0".toList) tokenGroups 1 = Text.toUnits "/a$1".toList ∧
    expand (Text.toUnits "$0".toList) tokenGroups 1 ≠
      fill (Text.toUnits "$0".toList) tokenGroups 1 := by
  decide

end Gateway.Rewrite
