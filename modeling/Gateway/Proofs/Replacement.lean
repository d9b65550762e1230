import Gateway.Proofs.Pattern.Matches
import Gateway.Proofs.Text.Utf16
import Gateway.Rewrite

/- What a template leaves of a path. The matches are replaced, each by the template filled with
   its own groups, and what stands before, between and behind them is kept
   (`applyTemplate_replaces`). A text whose units are read back is the same text, so a path
   without a match is not changed. -/
namespace Gateway

open Gateway.Text (CodeUnit)

namespace Pattern

/-- The second text is the first one, which stands at `pos`, with each of the matches replaced.
    They are given from the left. -/
inductive Replaced (new : Match → List CodeUnit) :
    (pos : Nat) → (text result : List CodeUnit) → List Match → Prop
  | rest {pos : Nat} {text : List CodeUnit} : Replaced new pos text text []
  | next {pos : Nat} {m : Match} {gap matched text result : List CodeUnit} {ms : List Match}
    (hstart : pos + gap.length = m.start) (hstop : m.start + matched.length = m.stop)
    (h : Replaced new m.stop text result ms) :
    Replaced new pos (gap ++ (matched ++ text)) (gap ++ new m ++ result) (m :: ms)

/-- Where there is no text left, only what is put in is left. -/
theorem Replaced.eq_flatMap {new : Match → List CodeUnit} {pos : Nat}
    {text result : List CodeUnit} {ms : List Match} (h : Replaced new pos text result ms)
    (htext : text = []) : result = ms.flatMap new := by
  induction h with
  | rest => exact htext
  | @next pos m gap matched text result ms _ _ _ ih =>
    obtain ⟨rfl, hrest⟩ := List.append_eq_nil_iff.mp htext
    rw [ih (List.append_eq_nil_iff.mp hrest).2]
    rfl

theorem Replaced.exists_of_cons {new : Match → List CodeUnit} {pos : Nat}
    {text result : List CodeUnit} {m : Match} {ms : List Match}
    (h : Replaced new pos text result (m :: ms)) :
    ∃ gap matched rest result', pos + gap.length = m.start ∧
      m.start + matched.length = m.stop ∧ text = gap ++ (matched ++ rest) ∧
      result = gap ++ new m ++ result' ∧ Replaced new m.stop rest result' ms := by
  cases h with
  | next hstart hstop h => exact ⟨_, _, _, _, hstart, hstop, rfl, rfl, h⟩

/-- There is one way to replace given matches. -/
theorem Replaced.unique {new : Match → List CodeUnit} {pos : Nat}
    {text text' result result' : List CodeUnit} {ms : List Match}
    (h : Replaced new pos text result ms) (h' : Replaced new pos text' result' ms)
    (htext : text = text') : result = result' := by
  induction h generalizing text' result' with
  | rest =>
    cases h'
    exact htext
  | next hstart hstop _ ih =>
    cases h' with
    | next hstart' hstop' h' =>
      obtain ⟨rfl, hrest⟩ := List.append_inj htext (by omega)
      obtain ⟨-, rfl⟩ := List.append_inj hrest (by omega)
      rw [ih h' rfl]

section
variable {input : Array CodeUnit} {pos upto : Nat}

theorem slice_eq_take_drop : slice input (pos, upto) = (input.toList.drop pos).take (upto - pos) := by
  simp [slice]

theorem slice_size : slice input (pos, input.size) = input.toList.drop pos := by
  rw [slice_eq_take_drop, List.take_of_length_le (by simp)]

theorem length_slice (pos : Nat) (h : upto ≤ input.size) : (slice input (pos, upto)).length = upto - pos := by
  simp only [slice, Array.length_toList, Array.size_extract]
  omega

theorem slice_append_drop (h : pos ≤ upto) :
    slice input (pos, upto) ++ input.toList.drop upto = input.toList.drop pos := by
  have hdrop : input.toList.drop upto = (input.toList.drop pos).drop (upto - pos) := by
    rw [List.drop_drop, Nat.add_sub_cancel' h]
  rw [slice_eq_take_drop, hdrop, List.take_append_drop]

end

/-- Nothing is lost and nothing is kept twice. The search may have gone on one unit behind the
    part that is done. -/
theorem replaced_replaceFrom {p : Compiled} {input : Array CodeUnit} {new : Match → List CodeUnit}
    {ms : List Match} {pos next : Nat} (h : p.Successive input next ms) (hle : pos ≤ next) :
    Replaced new pos (input.toList.drop pos) (replaceFrom input new pos ms) ms := by
  induction h generalizing pos with
  | done _ =>
    rw [replaceFrom, slice_size]
    exact .rest
  | @next next m rest hnext _ ih =>
    have hstart : pos ≤ m.start := Nat.le_trans hle hnext.le_start
    have hstop := hnext.start_le_stop
    have hgap := length_slice pos hnext.start_le
    have hmatched := length_slice m.start hnext.stop_le
    rw [replaceFrom, ← slice_append_drop hstart, ← slice_append_drop hstop]
    exact .next (by omega) (by omega) (ih m.stop_le_resume)

end Pattern

namespace Rewrite

open Pattern

/-- The path as the pattern sees it. -/
def pathInput (path : String) : Array CodeUnit := (Text.toUnits path.toList).toArray

variable (pattern : Compiled) (replacement : List CodeUnit) (groupCount : Nat)

/-- A template replaces the successive matches and nothing else. -/
theorem replaced_applyTemplate (path : List CodeUnit) :
    Replaced (fun m => expand replacement (m.groups path.toArray) groupCount) 0 path
      (applyTemplate pattern replacement groupCount path) (pattern.matchAll path.toArray) :=
  replaced_replaceFrom (Compiled.successive_matchAll pattern path.toArray) (Nat.le_refl 0)

theorem applyTemplate_of_no_match {path : List CodeUnit}
    (h : pattern.isMatch path.toArray = false) :
    applyTemplate pattern replacement groupCount path = path := by
  have hnone : pattern.search path.toArray 0 = Option.none := by simpa [Compiled.isMatch] using h
  have hdone : pattern.Successive path.toArray 0 [] := .done (Compiled.search_eq_none_iff.mp hnone)
  have hreplaced := replaced_applyTemplate pattern replacement groupCount path
  rw [(Compiled.successive_matchAll pattern path.toArray).unique hdone] at hreplaced
  exact hreplaced.unique .rest rfl

/-- A path that is matched as a whole leaves only what is put in for its matches. -/
theorem applyTemplate_of_whole_match {path : List CodeUnit} {m : Match}
    (h : pattern.matchAt path.toArray 0 = some m) (hwhole : m.stop = path.length) :
    applyTemplate pattern replacement groupCount path =
      (pattern.matchAll path.toArray).flatMap fun m =>
        expand replacement (m.groups path.toArray) groupCount := by
  have hstart : m.start = 0 := Compiled.start_of_matchAt h
  obtain ⟨ms, hms⟩ := Compiled.exists_matchAll_of_matchAt h
  have hreplaced := replaced_applyTemplate pattern replacement groupCount path
  rw [hms] at hreplaced ⊢
  obtain ⟨gap, matched, rest, result, hgap, hmatched, htext, hresult, hleft⟩ :=
    hreplaced.exists_of_cons
  have hlength := congrArg List.length htext
  simp only [List.length_append] at hlength
  have hnil : gap = [] := List.eq_nil_of_length_eq_zero (by omega)
  have hrest : rest = [] := List.eq_nil_of_length_eq_zero (by omega)
  rw [hresult, hnil, hleft.eq_flatMap hrest]
  rfl

/-- A template touches exactly the matches. There is one list of successive matches; the result
    is the one text in which they are replaced, each by the replacement filled with its own
    groups. They do not overlap, and there are at most one more of them than there are units. A
    path without a match is not changed. -/
theorem applyTemplate_replaces :
    (∀ path : List CodeUnit, ∃ ms : List Match,
      (∀ others, pattern.Successive path.toArray 0 others ↔ others = ms) ∧
      (∀ result, Replaced (fun m => expand replacement (m.groups path.toArray) groupCount) 0 path
          result ms ↔ result = applyTemplate pattern replacement groupCount path) ∧
      (ms.Pairwise fun m m' => m.stop ≤ m'.start) ∧
      ms.length ≤ path.length + 1 ∧
      (pattern.isMatch path.toArray = false →
        applyTemplate pattern replacement groupCount path = path)) ∧
    ∀ text path : String,
      (Rewrite.template pattern text groupCount).apply path =
        String.ofList (Text.ofUnits (applyTemplate pattern (Text.toUnits text.toList) groupCount
          (Text.toUnits path.toList))) ∧
      (pattern.isMatch (Text.toUnits path.toList).toArray = false →
        (Rewrite.template pattern text groupCount).apply path = path) := by
  have hall (path : List CodeUnit) := Compiled.successive_matchAll pattern path.toArray
  refine ⟨fun path => ⟨pattern.matchAll path.toArray, fun others => ?_, fun result => ?_, ?_, ?_,
    applyTemplate_of_no_match pattern replacement groupCount⟩, fun text path => ⟨rfl, fun h => ?_⟩⟩
  · refine ⟨fun h => h.unique (hall path), ?_⟩
    rintro rfl
    exact hall path
  · have hreplaced := replaced_applyTemplate pattern replacement groupCount path
    refine ⟨fun h => h.unique hreplaced rfl, ?_⟩
    rintro rfl
    exact hreplaced
  · exact (hall path).pairwise
  · simpa using (hall path).length_le
  · rw [apply, applyTemplate_of_no_match pattern _ groupCount h, Text.ofUnits_toUnits,
      String.ofList_toList]

end Rewrite

end Gateway
