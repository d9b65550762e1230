import Gateway.Proofs.ConfiguredHeaders

/- What the headers middleware makes of a response. It fills the gaps that the response leaves
   (`FillsGaps`), whatever spellings of a name are configured. Headers without gaps stay as they
   are (`IsComplete.fill_eq`), and filled headers have none (`isComplete_fill`), so a second time
   changes nothing (`addHeaders_fillsGaps`). -/
namespace Gateway

namespace Headers
variable {extra : Fields String} {own : Headers}

/-- There is a header for each configured name, in any letter case, that can be given. -/
def IsComplete (extra : Fields String) (own : Headers) : Prop :=
  ∀ field ∈ extra, lowercase field.1 ≠ Fields.reserved → own.Sets field.1

theorem IsComplete.fill_eq (h : own.IsComplete extra) : own.fill extra = own := by
  induction extra using List.reverseRecOn with
  | nil => rfl
  | append_singleton init field ih =>
    have hinit : own.fill init = own := ih fun other hother => h other (List.mem_append_left _ hother)
    rw [fill_append_singleton]
    split
    · exact hinit
    · next hunset =>
      -- the name is not there, so it is the reserved one, to which nothing is assigned
      have hreserved : lowercase field.1 = Fields.reserved := by
        by_contra hname
        exact hunset (contains_iff_sets.mpr (h field (List.mem_append_right _ List.mem_cons_self) hname))
      rw [Fields.assign, if_pos hreserved, hinit]

theorem exists_lastFor {field : String × String} (h : field ∈ extra) :
    ∃ last, extra.lastFor field.1 = some last := by
  refine Option.ne_none_iff_exists'.mp fun hnone => ?_
  exact Fields.lastFor_eq_none_iff.mp hnone field h rfl

theorem isComplete_fill (h : Fields.IsListed own) (extra : Fields String) :
    (own.fill extra).IsComplete extra := by
  intro field hfield hname
  by_cases hsets : own.Sets field.1
  · obtain ⟨header, hown, hsame⟩ := hsets
    exact ⟨header, (mem_fill_iff h).mpr (.inl hown), hsame⟩
  · obtain ⟨last, hlast⟩ := exists_lastFor hfield
    exact ⟨_, mem_fill_of_lastFor h hsets hname hlast, lowercase_lowercase field.1⟩

end Headers

namespace Middleware
open Headers

/-- The second response is the first one with its gaps filled. -/
structure FillsGaps (extra : Fields String) (r filled : Response) : Prop where
  status : filled.status = r.status
  body : filled.body = r.body
  kept : ∀ header ∈ r.headers, header ∈ filled.headers
  /-- A configured name that the response does not have, in any letter case, gets the value that
      is configured last for it. -/
  added : ∀ field ∈ extra, lowercase field.1 ≠ Fields.reserved → ¬ r.headers.Sets field.1 →
    ∃ last, extra.lastFor field.1 = some last ∧
      (lowercase field.1, .text last.2) ∈ filled.headers
  nothing_else : ∀ header ∈ filled.headers, header ∈ r.headers ∨ IsAdded extra r.headers header
  /-- Each name is there once. -/
  listed : Fields.IsListed filled.headers

theorem fillHeaders_fillsGaps (extra : Fields String) {r : Response}
    (h : Fields.IsListed r.headers) : FillsGaps extra r (fillHeaders extra r) where
  status := fillHeaders_status extra r
  body := fillHeaders_body extra r
  kept header hheader := by
    rw [fillHeaders_headers]
    exact (mem_fill_iff h).mpr (.inl hheader)
  added field hfield hname hsets := by
    obtain ⟨last, hlast⟩ := exists_lastFor hfield
    rw [fillHeaders_headers]
    exact ⟨last, hlast, mem_fill_of_lastFor h hsets hname hlast⟩
  nothing_else header hheader := by
    rw [fillHeaders_headers] at hheader
    exact (mem_fill_iff h).mp hheader
  listed := by
    rw [fillHeaders_headers]
    exact isListed_fill h extra

/-- A second time changes nothing. -/
theorem fillHeaders_fillHeaders (extra : Fields String) {r : Response}
    (h : Fields.IsListed r.headers) :
    fillHeaders extra (fillHeaders extra r) = fillHeaders extra r := by
  have hcomplete : (fillHeaders extra r).headers.IsComplete extra := by
    rw [fillHeaders_headers]
    exact isComplete_fill h extra
  conv_lhs => rw [fillHeaders]
  rw [hcomplete.fill_eq]
  split <;> rfl

/-- Behind the middleware a response has its status, its body and its headers, and no others than
    those that are configured and that it leaves out. To add them twice is to add them once. -/
theorem addHeaders_fillsGaps (extra : Fields String) (next : Handler) (request : Request)
    (x : Exchange)
    (hobject : ∀ r, (next request x).1 = .done r → Fields.IsListed r.headers) :
    (∀ r y, next request x = (.done r, y) →
      ∃ filled, addHeaders extra next request x = (.done filled, y) ∧ FillsGaps extra r filled) ∧
    addHeaders extra (addHeaders extra next) request x = addHeaders extra next request x := by
  rcases hrun : next request x with ⟨outcome, z⟩
  rw [hrun] at hobject
  constructor
  · rintro r y hr
    obtain ⟨rfl, rfl⟩ := Prod.mk.inj hr
    exact ⟨_, addHeaders_of_done hrun, fillHeaders_fillsGaps extra (hobject r rfl)⟩
  · cases outcome with
    | done r =>
      rw [addHeaders_of_done (addHeaders_of_done hrun), addHeaders_of_done hrun,
        fillHeaders_fillHeaders extra (hobject r rfl)]
    | failed e => rw [addHeaders_of_failed (addHeaders_of_failed hrun), addHeaders_of_failed hrun]
    | pending => rw [addHeaders_of_pending (addHeaders_of_pending hrun), addHeaders_of_pending hrun]

/-- Two spellings of a name, a name that the response has, and the reserved name. -/
def spelledHeaders : Fields String :=
  [("X-A", "1"), ("x-b", "2"), ("X-B", "3"), ("__PROTO__", "4")]

/-- Of all these one header is added. -/
theorem spelledHeaders_fillGaps :
    let next := Scripted.handler (.respond ⟨200, [("x-a", .text "own")], .none⟩)
    let added := (addHeaders spelledHeaders next Deliver.usualRequest (.begin .empty)).1
    (∀ r, (next Deliver.usualRequest (.begin .empty)).1 = .done r → Fields.IsListed r.headers) ∧
    added = .done ⟨200, [("x-a", .text "own"), ("x-b", .text "3")], .none⟩ ∧
    FillsGaps spelledHeaders ⟨200, [("x-a", .text "own")], .none⟩
      ⟨200, [("x-a", .text "own"), ("x-b", .text "3")], .none⟩ ∧
    (addHeaders spelledHeaders (addHeaders spelledHeaders next) Deliver.usualRequest
      (.begin .empty)).1 = added := by
  intro next added
  have hobject : ∀ r, (next Deliver.usualRequest (.begin .empty)).1 = .done r →
      Fields.IsListed r.headers := by
    intro r hr
    obtain rfl := Outcome.done.inj hr
    exact List.pairwise_singleton _ _
  obtain ⟨hfilled, htwice⟩ :=
    addHeaders_fillsGaps spelledHeaders next Deliver.usualRequest (.begin .empty) hobject
  obtain ⟨filled, hadded, hgaps⟩ := hfilled _ _ rfl
  have hvalue : added = .done ⟨200, [("x-a", .text "own"), ("x-b", .text "3")], .none⟩ := by
    have hheaders : Headers.fill spelledHeaders [("x-a", .text "own")] =
        [("x-a", .text "own"), ("x-b", .text "3")] := by decide
    show Outcome.done (fillHeaders spelledHeaders _) = _
    rw [fillHeaders, hheaders]
    rfl
  have hsame : filled = ⟨200, [("x-a", .text "own"), ("x-b", .text "3")], .none⟩ := by
    have hdone := congrArg Prod.fst hadded
    exact Outcome.done.inj (hdone.symm.trans hvalue)
  exact ⟨hobject, hvalue, hsame ▸ hgaps, congrArg Prod.fst htwice⟩

end Middleware

end Gateway
