import Gateway.Proofs.Pattern.Scan

/- A pattern with an empty alternative behind it. A text that compiles still compiles with
   a bar behind it, with the same groups under the same names, and the empty alternative is
   the last one of its tree (`compile_append_bar`). So the groups of a pattern can always be
   counted in that way. -/
namespace Gateway.Pattern

open Gateway.Text (CodeUnit)

theorem build_cons (b : Builder) (t : Token) (rest : List Token) :
    b.build (t :: rest) = b.step t >>= fun c => c.build rest := by
  simp [Builder.build]

/-- Tokens that have been read to their end held no fault. -/
theorem bad_not_mem_of_build {b c : Builder} {tokens : List Token} (h : b.build tokens = .ok c)
    (fault : Fault) : .bad fault ∉ tokens := by
  induction tokens generalizing b with
  | nil => simp
  | cons t rest ih =>
    rw [build_cons] at h
    obtain ⟨d, hstep, hrest⟩ := bind_eq_ok_iff.mp h
    intro hmem
    rcases List.mem_cons.mp hmem with rfl | hmem
    · cases hstep
    · exact ih hrest hmem

theorem build_append_bar {b c : Builder} {tokens : List Token} (h : b.build tokens = .ok c) :
    b.build (tokens ++ [.bar]) = .ok { c with level := c.level.nextAlternative } := by
  rw [Builder.build_append, h]
  rfl

/-- A pattern is complete if every group is closed and every name that is used is given. -/
theorem finish_eq_ok_iff {b : Builder} {p : Compiled} :
    b.finish = .ok p ↔ b.outer = [] ∧
      (b.used.any fun name => (b.names.lookup name).isNone) = false ∧
      ⟨b.level.node, b.groups, b.names⟩ = p := by
  unfold Builder.finish
  by_cases houter : b.outer = []
  · rw [if_neg (not_not_intro houter)]
    cases b.used.any fun name => (b.names.lookup name).isNone with
    | true => simp
    | false => simp [houter]
  · rw [if_pos houter]
    simp [houter]

/-- What compiles also compiles with an empty alternative behind it. Both come from the
    same state of the pass, so they have the same groups. -/
theorem compile_append_bar {source : List CodeUnit} {p : Compiled} (h : compile source = .ok p) :
    ∃ b, Builder.start.build (tokens source) = .ok b ∧
      ⟨b.level.node, b.groups, b.names⟩ = p ∧
      compile (source ++ [bar]) = .ok ⟨b.level.nextAlternative.node, b.groups, b.names⟩ := by
  obtain ⟨b, hbuild, hfinish⟩ := bind_eq_ok_iff.mp h
  obtain ⟨houter, hused, hp⟩ := finish_eq_ok_iff.mp hfinish
  refine ⟨b, hbuild, hp, bind_eq_ok_iff.mpr ⟨{ b with level := b.level.nextAlternative }, ?_, ?_⟩⟩
  · rw [tokens_append_stop (.inl rfl) (bad_not_mem_of_build hbuild)]
    exact build_append_bar hbuild
  · exact finish_eq_ok_iff.mpr ⟨houter, hused, rfl⟩

end Gateway.Pattern
