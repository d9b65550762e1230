import Gateway.Fields
import Gateway.Proofs.Text.Lowercase

/- Named fields as an object lists them: each name once, and array indices before other names
   (`IsListed`). Setting a field keeps that (`IsListed.set`): the field takes its place and the
   others stay (`IsListed.mem_set_iff`). Names that differ in letter case are different fields,
   and `lastFor` is the one of them that is listed last. An index or a name that is there has a
   place of its own, so setting a field before or after a merge comes to the same
   (`IsListed.merge_set`). -/
namespace Gateway.Fields

variable {α : Type}

/-- The fields are listed as those of an object are: each name once, and array indices before
    other names and by number. -/
def IsListed (fields : Fields α) : Prop :=
  fields.Pairwise fun a b => a.1 ≠ b.1 ∧ goesBefore b.1 a.1 = false

instance (fields : Fields α) : Decidable (IsListed fields) :=
  inferInstanceAs (Decidable (List.Pairwise _ _))

theorem isListed_nil : IsListed ([] : Fields α) := List.Pairwise.nil

/-! ## The order of names -/

theorem goesBefore_eq_true_iff {new old : String} :
    goesBefore new old = true ↔ ∃ i, index? new = some i ∧ ∀ j, index? old = some j → i < j := by
  unfold goesBefore
  cases index? new <;> cases index? old <;> simp

theorem goesBefore_asymm {a b : String} (h : goesBefore a b = true) : goesBefore b a = false := by
  rw [Bool.eq_false_iff]
  intro hback
  obtain ⟨i, hi, hlt⟩ := goesBefore_eq_true_iff.mp h
  obtain ⟨j, hj, hgt⟩ := goesBefore_eq_true_iff.mp hback
  exact absurd (hlt j hj) (Nat.lt_asymm (hgt i hi))

theorem goesBefore_trans {a b c : String} (hab : goesBefore a b = true)
    (hbc : goesBefore b c = true) : goesBefore a c = true := by
  obtain ⟨i, hi, hlt⟩ := goesBefore_eq_true_iff.mp hab
  obtain ⟨j, hj, hgt⟩ := goesBefore_eq_true_iff.mp hbc
  exact goesBefore_eq_true_iff.mpr ⟨i, hi, fun k hk => Nat.lt_trans (hlt j hj) (hgt k hk)⟩

theorem ne_of_goesBefore {a b : String} (h : goesBefore a b = true) : a ≠ b := by
  rintro rfl
  exact absurd (h.symm.trans (goesBefore_asymm h)) (by decide)

/-! ## Setting a field -/

section
variable {fields : Fields α} {name : String} (value : α)

/-- A name that goes before none of the others is set behind them. -/
theorem set_eq_append (h : ∀ field ∈ fields, field.1 ≠ name ∧ goesBefore name field.1 = false) :
    set name value fields = fields ++ [(name, value)] := by
  induction fields with
  | nil => rfl
  | cons field rest ih =>
    obtain ⟨hne, hbehind⟩ := h field List.mem_cons_self
    have hrest := ih fun other hother => h other (List.mem_cons_of_mem field hother)
    rw [set, if_neg hne, hbehind, hrest]
    rfl

theorem get?_set (fields : Fields α) (name : String) (value : α) (key : String) :
    get? (set name value fields) key = if key = name then some value else get? fields key := by
  unfold get?
  induction fields with
  | nil =>
    rw [set, List.lookup_cons]
    split <;> simp_all
  | cons field rest ih =>
    obtain ⟨n, old⟩ := field
    rw [set]
    split
    · next hname =>
      subst hname
      rw [List.lookup_cons, List.lookup_cons]
      split <;> simp_all
    · next hname =>
      split
      · rw [List.lookup_cons]
        split <;> simp_all
      · rw [List.lookup_cons, List.lookup_cons, ih]
        split <;> simp_all

/-- A field takes the place of the one with its name. A new one is listed behind all others, or
    further in front if its name is an index. -/
theorem set_cases (fields : Fields α) (name : String) (value : α) :
    (∃ front old back, fields = front ++ (name, old) :: back ∧
      set name value fields = front ++ (name, value) :: back) ∨
    ∃ front back, fields = front ++ back ∧ set name value fields = front ++ (name, value) :: back ∧
      (∀ field ∈ front, field.1 ≠ name) ∧ (back = [] ∨ (index? name).isSome) := by
  induction fields with
  | nil => exact .inr ⟨[], [], rfl, rfl, by simp, .inl rfl⟩
  | cons field rest ih =>
    obtain ⟨n, old⟩ := field
    rw [set]
    split
    · next hname =>
      subst hname
      exact .inl ⟨[], old, rest, rfl, rfl⟩
    · next hname =>
      split
      · next hbefore =>
        obtain ⟨i, hi, -⟩ := goesBefore_eq_true_iff.mp hbefore
        exact .inr ⟨[], (n, old) :: rest, rfl, rfl, by simp, .inr (by rw [hi]; rfl)⟩
      · rcases ih with ⟨front, w, back, hsplit, hset⟩ | ⟨front, back, hsplit, hset, hfront, hback⟩
        · exact .inl ⟨(n, old) :: front, w, back, by rw [hsplit]; rfl, by rw [hset]; rfl⟩
        · refine .inr ⟨(n, old) :: front, back, by rw [hsplit]; rfl, by rw [hset]; rfl, ?_, hback⟩
          exact List.forall_mem_cons.mpr ⟨hname, hfront⟩

theorem IsListed.set (h : IsListed fields) : IsListed (Fields.set name value fields) := by
  induction fields with
  | nil => exact List.pairwise_singleton _ _
  | cons field rest ih =>
    obtain ⟨n, old⟩ := field
    obtain ⟨hfirst, hrest⟩ := List.pairwise_cons.mp h
    rw [Fields.set]
    split
    · next hname => exact List.pairwise_cons.mpr ⟨hname ▸ hfirst, hrest⟩
    · next hname =>
      split
      · next hbefore =>
        refine List.pairwise_cons.mpr ⟨List.forall_mem_cons.mpr ⟨?_, ?_⟩, h⟩
        · exact ⟨ne_of_goesBefore hbefore, goesBefore_asymm hbefore⟩
        · -- what is behind the first field is not in front of it, so not in front of the new one
          intro b hb
          have hbehind : goesBefore b.1 n = false := (hfirst b hb).2
          have hnot : goesBefore b.1 name = false := by
            rw [Bool.eq_false_iff]
            intro hb'
            rw [goesBefore_trans hb' hbefore] at hbehind
            cases hbehind
          refine ⟨?_, hnot⟩
          rintro rfl
          rw [hbefore] at hbehind
          cases hbehind
      · next hbefore =>
        refine List.pairwise_cons.mpr ⟨fun b hb => ?_, ih hrest⟩
        rcases set_cases rest name value with ⟨front, w, back, hsplit, hset⟩ |
          ⟨front, back, hsplit, hset, -⟩
        all_goals
          rw [hset] at hb
          rcases List.mem_append.mp hb with hb | hb
          · exact hfirst b (by rw [hsplit]; simp [hb])
          · rcases List.mem_cons.mp hb with rfl | hb
            · exact ⟨hname, by simpa using hbefore⟩
            · exact hfirst b (by rw [hsplit]; simp [hb])

end

theorem IsListed.assign {fields : Fields α} (h : IsListed fields) (name : String) (value : α) :
    IsListed (Fields.assign name value fields) := by
  rw [Fields.assign]
  split
  · exact h
  · exact h.set value

theorem IsListed.foldl_assign {fields : Fields α} (h : IsListed fields)
    (pairs : List (String × α)) :
    IsListed (pairs.foldl (fun fields pair => Fields.assign pair.1 pair.2 fields) fields) := by
  induction pairs generalizing fields with
  | nil => exact h
  | cons pair rest ih => exact ih (h.assign pair.1 pair.2)

/-- No other field of an object has the same name. -/
theorem IsListed.ne {front back : Fields α} {name : String} {value : α}
    (h : IsListed (front ++ (name, value) :: back)) :
    (∀ field ∈ front, field.1 ≠ name) ∧ ∀ field ∈ back, field.1 ≠ name := by
  obtain ⟨-, hback, hfront⟩ := List.pairwise_append.mp h
  refine ⟨fun field hfield => (hfront field hfield _ List.mem_cons_self).1, fun field hfield => ?_⟩
  exact ((List.pairwise_cons.mp hback).1 field hfield).1.symm

theorem IsListed.mem_iff {front back : Fields α} {name : String} {value : α}
    (h : IsListed (front ++ (name, value) :: back)) {field : String × α} :
    field ∈ front ++ (name, value) :: back ↔
      field = (name, value) ∨ (field ∈ front ++ back ∧ field.1 ≠ name) := by
  obtain ⟨hfront, hback⟩ := h.ne
  rw [List.mem_append, List.mem_cons, List.mem_append]
  constructor
  · rintro (hm | rfl | hm)
    · exact .inr ⟨.inl hm, hfront field hm⟩
    · exact .inl rfl
    · exact .inr ⟨.inr hm, hback field hm⟩
  · rintro (rfl | ⟨hm | hm, -⟩)
    · exact .inr (.inl rfl)
    · exact .inl hm
    · exact .inr (.inr hm)

/-- Setting a field replaces the one with its name and leaves the others as they are. -/
theorem IsListed.mem_set_iff {fields : Fields α} (h : IsListed fields) {name : String} {value : α}
    {field : String × α} :
    field ∈ Fields.set name value fields ↔
      field = (name, value) ∨ (field ∈ fields ∧ field.1 ≠ name) := by
  have hset : IsListed (Fields.set name value fields) := h.set value
  rcases set_cases fields name value with ⟨front, old, back, hsplit, heq⟩ |
    ⟨front, back, hsplit, heq, -, -⟩
  · rw [heq] at hset
    rw [heq, hset.mem_iff, hsplit]
    -- the field with the old value has the name as well
    refine or_congr_right (and_congr_left fun hne => ?_)
    simp [show field ≠ (name, old) from fun hold => hne (by rw [hold])]
  · rw [heq] at hset
    rw [heq, hset.mem_iff, hsplit]

theorem IsListed.mem_names_set_iff {fields : Fields α} (h : IsListed fields) {name key : String}
    {value : α} :
    key ∈ names (Fields.set name value fields) ↔ key = name ∨ key ∈ names fields := by
  simp only [names, List.mem_map, h.mem_set_iff]
  constructor
  · rintro ⟨field, rfl | ⟨hm, -⟩, rfl⟩
    · exact .inl rfl
    · exact .inr ⟨field, hm, rfl⟩
  · rintro (rfl | ⟨field, hm, rfl⟩)
    · exact ⟨_, .inl rfl, rfl⟩
    · by_cases hname : field.1 = name
      · exact ⟨_, .inl rfl, hname.symm⟩
      · exact ⟨field, .inr ⟨hm, hname⟩, rfl⟩

/-! ## Assigning a list of fields -/

section
variable {fields : Fields α}

theorem IsListed.mem_of_mem_assign (h : IsListed fields) {name : String} {value : α}
    {field : String × α} (hm : field ∈ Fields.assign name value fields) :
    field = (name, value) ∨ field ∈ fields := by
  rw [Fields.assign] at hm
  split at hm
  · exact .inr hm
  · exact (h.mem_set_iff.mp hm).imp_right And.left

theorem IsListed.mem_names_assign_iff (h : IsListed fields) {name key : String} {value : α} :
    key ∈ names (Fields.assign name value fields) ↔
      (key = name ∧ key ≠ reserved) ∨ key ∈ names fields := by
  rw [Fields.assign]
  split
  · next hname =>
    simp only [hname]
    tauto
  · next hname =>
    rw [h.mem_names_set_iff]
    exact or_congr_left ⟨fun hkey => ⟨hkey, hkey ▸ hname⟩, And.left⟩

theorem IsListed.mem_of_mem_foldl_assign (h : IsListed fields) {pairs : List (String × α)}
    {field : String × α}
    (hm : field ∈ pairs.foldl (fun fields pair => Fields.assign pair.1 pair.2 fields) fields) :
    field ∈ fields ∨ field ∈ pairs := by
  induction pairs generalizing fields with
  | nil => exact .inl hm
  | cons pair rest ih =>
    rcases ih (h.assign pair.1 pair.2) hm with hm | hm
    · rcases h.mem_of_mem_assign hm with rfl | hm
      · exact .inr List.mem_cons_self
      · exact .inl hm
    · exact .inr (List.mem_cons_of_mem pair hm)

theorem IsListed.mem_names_foldl_assign_iff (h : IsListed fields) {pairs : List (String × α)}
    {key : String} :
    key ∈ names (pairs.foldl (fun fields pair => Fields.assign pair.1 pair.2 fields) fields) ↔
      key ∈ names fields ∨ (key ≠ reserved ∧ key ∈ names pairs) := by
  induction pairs generalizing fields with
  | nil => simp [names]
  | cons pair rest ih =>
    rw [List.foldl_cons, ih (h.assign pair.1 pair.2), h.mem_names_assign_iff]
    simp only [names, List.map_cons, List.mem_cons]
    tauto

end

/-! ## Names in any letter case -/

/-- The last of the fields whose names differ from a name in letter case only. -/
def lastFor (fields : Fields α) (name : String) : Option (String × α) :=
  (fields.filter fun field => lowercase field.1 = lowercase name).getLast?

theorem lastFor_eq_none_iff {fields : Fields α} {name : String} :
    fields.lastFor name = none ↔ ∀ field ∈ fields, lowercase field.1 ≠ lowercase name := by
  simp [lastFor]

theorem mem_of_lastFor {fields : Fields α} {name : String} {field : String × α}
    (h : fields.lastFor name = some field) :
    field ∈ fields ∧ lowercase field.1 = lowercase name := by
  simpa using List.mem_filter.mp (List.mem_of_getLast? h)

theorem lastFor_congr {fields : Fields α} {name other : String}
    (h : lowercase name = lowercase other) : fields.lastFor name = fields.lastFor other := by
  rw [lastFor, lastFor, h]

theorem lastFor_append_singleton (fields : Fields α) (field : String × α) (name : String) :
    (fields ++ [field]).lastFor name =
      if lowercase field.1 = lowercase name then some field else fields.lastFor name := by
  unfold lastFor
  rw [List.filter_append, List.filter_singleton]
  split <;> simp_all

theorem isDigit_of_index? {name : String} (h : (index? name).isSome) :
    ∀ c ∈ name.toList, c.isDigit = true := by
  unfold index? at h
  dsimp only at h
  split at h
  · next hindex =>
    simp only [Bool.and_eq_true, List.all_eq_true] at hindex
    exact hindex.1.1.1
  · cases h

/-- An index has one spelling only. -/
theorem eq_of_lowercase_index {index name : String} (h : (index? index).isSome)
    (heq : lowercase name = lowercase index) : name = index :=
  eq_of_lowercase_digits (isDigit_of_index? h) heq

section
variable {fields : Fields α} {name : String} (value : α) (key : String)

theorem IsListed.set_eq_map (h : IsListed fields) (hname : name ∈ names fields) :
    Fields.set name value fields =
      fields.map fun field => if field.1 = name then (name, value) else field := by
  have hset : IsListed (Fields.set name value fields) := h.set value
  obtain ⟨field, hfield, rfl⟩ := List.mem_map.mp hname
  have hkept {part : Fields α} (hne : ∀ other ∈ part, other.1 ≠ field.1) :
      part.map (fun other => if other.1 = field.1 then (field.1, value) else other) = part := by
    conv_rhs => rw [← List.map_id part]
    exact List.map_congr_left fun other hother => if_neg (hne other hother)
  rcases set_cases fields field.1 value with ⟨front, old, back, hsplit, heq⟩ |
    ⟨front, back, hsplit, heq, -, -⟩
  · rw [heq] at hset ⊢
    obtain ⟨hfront, hback⟩ := hset.ne
    rw [hsplit, List.map_append, List.map_cons, hkept hfront, hkept hback, if_pos rfl]
  · rw [heq] at hset
    obtain ⟨hfront, hback⟩ := hset.ne
    rw [hsplit] at hfield
    rcases List.mem_append.mp hfield with hm | hm
    · exact absurd rfl (hfront field hm)
    · exact absurd rfl (hback field hm)

/-- A field that is there keeps its place. -/
theorem IsListed.names_set (h : IsListed fields) (hname : name ∈ names fields) :
    names (Fields.set name value fields) = names fields := by
  rw [h.set_eq_map value hname, names, names, List.map_map]
  refine List.map_congr_left fun field _ => ?_
  rw [Function.comp]
  split
  · next hsame => exact hsame.symm
  · rfl

theorem IsListed.lastFor_set_old (h : IsListed fields) (hname : name ∈ names fields) :
    (Fields.set name value fields).lastFor key =
      (fields.lastFor key).map fun field => if field.1 = name then (name, value) else field := by
  rw [h.set_eq_map value hname, lastFor, lastFor, List.filter_map, List.getLast?_map]
  congr 2
  apply List.filter_congr
  intro field _
  simp only [Function.comp]
  split <;> simp_all

theorem lastFor_set_other (h : lowercase name ≠ lowercase key) :
    (Fields.set name value fields).lastFor key = fields.lastFor key := by
  rcases set_cases fields name value with ⟨front, old, back, hsplit, heq⟩ |
    ⟨front, back, hsplit, heq, -, -⟩
  all_goals
    rw [heq, hsplit, lastFor, lastFor, List.filter_append, List.filter_append, List.filter_cons]
    simp [h]

theorem lastFor_set_new (hname : name ∉ names fields) (hkey : lowercase name = lowercase key) :
    (Fields.set name value fields).lastFor key = some (name, value) := by
  rcases set_cases fields name value with ⟨front, old, back, hsplit, -⟩ |
    ⟨front, back, hsplit, heq, -, hback⟩
  · exact absurd (List.mem_map.mpr ⟨(name, old), by rw [hsplit]; simp, rfl⟩) hname
  · -- nothing behind the new field has a name that differs from its own in letter case only
    have hnone : back.filter (fun field => lowercase field.1 = lowercase key) = [] := by
      rcases hback with rfl | hindex
      · rfl
      · refine List.filter_eq_nil_iff.mpr fun field hfield hlower => hname ?_
        have hspelling : field.1 = name :=
          eq_of_lowercase_index hindex ((of_decide_eq_true hlower).trans hkey.symm)
        exact List.mem_map.mpr ⟨field, by rw [hsplit]; simp [hfield], hspelling⟩
    rw [heq, lastFor, List.filter_append, List.filter_cons, if_pos (by simpa using hkey), hnone]
    simp

end

/-! ## Merging -/

theorem mem_of_lookup {fields : Fields α} {name : String} {value : α} :
    fields.lookup name = some value → (name, value) ∈ fields := by
  induction fields with
  | nil => intro h; cases h
  | cons field rest ih =>
    intro h
    rw [List.lookup_cons] at h
    split at h
    · next hname =>
      obtain rfl := Option.some.inj h
      rw [eq_of_beq hname]
      exact List.mem_cons_self
    · exact List.mem_cons_of_mem _ (ih h)

theorem mem_names_of_get? {fields : Fields α} {name : String} {value : α}
    (h : get? fields name = some value) : name ∈ names fields :=
  List.mem_map_of_mem (mem_of_lookup h)

theorem IsListed.get?_eq_some_iff {fields : Fields α} (h : IsListed fields) {name : String}
    {value : α} : get? fields name = some value ↔ (name, value) ∈ fields := by
  refine ⟨mem_of_lookup, fun hm => ?_⟩
  obtain ⟨front, back, rfl⟩ := List.append_of_mem hm
  have hfront : front.lookup name = none :=
    List.lookup_eq_none_iff.mpr fun field hfield => by simpa using (h.ne.1 field hfield).symm
  rw [get?, List.lookup_append, hfront, List.lookup_cons_self, Option.none_or]

theorem lookup_eq_none_iff {fields : Fields α} {name : String} :
    fields.lookup name = none ↔ name ∉ names fields := by
  simp only [List.lookup_eq_none_iff, names, List.mem_map, not_exists, not_and, bne_iff_ne]
  exact forall₂_congr fun field _ => ne_comm

theorem merge_append_singleton (fields more : Fields α) (field : String × α) :
    merge fields (more ++ [field]) = Fields.set field.1 field.2 (merge fields more) := by
  rw [merge, List.foldl_append]
  rfl

theorem IsListed.merge {fields : Fields α} (h : IsListed fields) (more : Fields α) :
    IsListed (Fields.merge fields more) := by
  induction more using List.reverseRecOn with
  | nil => exact h
  | append_singleton init field ih =>
    rw [merge_append_singleton]
    exact ih.set field.2

theorem isListed_ofPairs (pairs : List (String × α)) : IsListed (ofPairs pairs) :=
  isListed_nil.merge pairs

theorem IsListed.mem_of_mem_merge {fields more : Fields α} (h : IsListed fields)
    {field : String × α} (hm : field ∈ Fields.merge fields more) : field ∈ more ∨ field ∈ fields := by
  induction more using List.reverseRecOn with
  | nil => exact .inr hm
  | append_singleton init last ih =>
    rw [merge_append_singleton] at hm
    rcases (h.merge init).mem_set_iff.mp hm with rfl | ⟨hm, -⟩
    · exact .inl (List.mem_append_right init List.mem_cons_self)
    · exact (ih hm).imp_left (List.mem_append_left _)

/-- What is listed is merged by being appended. -/
theorem IsListed.merge_eq_append {fields more : Fields α} (h : IsListed (fields ++ more)) :
    Fields.merge fields more = fields ++ more := by
  induction more using List.reverseRecOn with
  | nil => rw [List.append_nil]; rfl
  | append_singleton init last ih =>
    rw [← List.append_assoc] at h
    obtain ⟨hinit, -, hlast⟩ := List.pairwise_append.mp h
    rw [merge_append_singleton, ih hinit, ← List.append_assoc]
    exact set_eq_append last.2 fun field hfield => hlast field hfield last (List.mem_singleton_self last)

theorem IsListed.merge_nil {fields : Fields α} (h : IsListed fields) :
    Fields.merge [] fields = fields := IsListed.merge_eq_append h

/-- Assigning is merging, apart from the reserved name. -/
theorem foldl_assign_eq_merge {fields more : Fields α} (h : ∀ field ∈ more, field.1 ≠ reserved) :
    more.foldl (fun fields pair => Fields.assign pair.1 pair.2 fields) fields =
      Fields.merge fields more := by
  induction more generalizing fields with
  | nil => rfl
  | cons field rest ih =>
    obtain ⟨hfield, hrest⟩ := List.forall_mem_cons.mp h
    rw [List.foldl_cons, assign, if_neg hfield, ih hrest]
    rfl

/-- Fields are assigned to an object without fields in their order, without the reserved name. -/
theorem IsListed.foldl_assign_nil {fields : Fields α} (h : IsListed fields) :
    fields.foldl (fun assigned pair => Fields.assign pair.1 pair.2 assigned) [] =
      fields.filter fun field => field.1 ≠ reserved := by
  have hskip : fields.foldl (fun assigned pair => Fields.assign pair.1 pair.2 assigned) [] =
      (fields.filter fun field => field.1 ≠ reserved).foldl
        (fun assigned pair => Fields.assign pair.1 pair.2 assigned) [] := by
    rw [List.foldl_filter]
    congr 1
    funext assigned pair
    by_cases hname : pair.1 = reserved <;> simp [Fields.assign, hname]
  have hassignable : ∀ field ∈ fields.filter fun field => field.1 ≠ reserved,
      field.1 ≠ reserved := fun field hm => by simpa using (List.mem_filter.mp hm).2
  rw [hskip, foldl_assign_eq_merge hassignable]
  exact IsListed.merge_nil (h.filter _)

theorem IsListed.mem_names_merge_iff {fields more : Fields α} (h : IsListed fields) {name : String} :
    name ∈ names (Fields.merge fields more) ↔ name ∈ names fields ∨ name ∈ names more := by
  induction more using List.reverseRecOn with
  | nil => simp [Fields.merge, names]
  | append_singleton init field ih =>
    rw [merge_append_singleton, (h.merge init).mem_names_set_iff, ih]
    simp only [names, List.map_append, List.map_cons, List.map_nil, List.mem_append,
      List.mem_singleton]
    tauto

/-- The field that counts for a name after a merge, in any letter case: the last one with a new
    name, or else the last one that was there, with the value that has been set upon it. -/
def lastMerged (fields more : Fields α) (key : String) : Option (String × α) :=
  (Fields.lastFor (more.filter fun field => field.1 ∉ names fields) key).or
    ((fields.lastFor key).map fun field => (field.1, (more.lookup field.1).getD field.2))

section
variable {fields init : Fields α} {name : String} (value : α) (key : String)

theorem lookup_append_singleton_of_ne {other : String} (h : other ≠ name) :
    (init ++ [(name, value)]).lookup other = init.lookup other := by
  rw [List.lookup_append, List.lookup_cons, beq_false_of_ne h]
  simp

/-- An old name keeps its place, and the field may get the value. -/
theorem lastMerged_append_old (hold : name ∈ names fields) (hinit : name ∉ names init) :
    lastMerged fields (init ++ [(name, value)]) key =
      (lastMerged fields init key).map fun field => if field.1 = name then (name, value) else field := by
  have hfilter : (init ++ [(name, value)]).filter (fun field => field.1 ∉ names fields) =
      init.filter fun field => field.1 ∉ names fields := by simp [hold]
  rw [lastMerged, lastMerged, hfilter]
  cases hnew : Fields.lastFor (init.filter fun field => field.1 ∉ names fields) key with
  | some other =>
    have hother : other.1 ∉ names fields := by
      simpa using (List.mem_filter.mp (mem_of_lastFor hnew).1).2
    have hne : other.1 ≠ name := fun hsame => hother (hsame ▸ hold)
    simp [hne]
  | none =>
    rw [Option.none_or, Option.none_or, Option.map_map]
    congr 1
    funext other
    by_cases hother : other.1 = name
    · have hnone : init.lookup name = none := lookup_eq_none_iff.mpr hinit
      simp [hother, List.lookup_append, hnone]
    · simp [lookup_append_singleton_of_ne value hother, hother]

/-- A new name is listed last. -/
theorem lastMerged_append_new (hnew : name ∉ names fields) :
    lastMerged fields (init ++ [(name, value)]) key =
      if lowercase name = lowercase key then some (name, value) else lastMerged fields init key := by
  have hfilter : (init ++ [(name, value)]).filter (fun field => field.1 ∉ names fields) =
      init.filter (fun field => field.1 ∉ names fields) ++ [(name, value)] := by simp [hnew]
  rw [lastMerged, lastMerged, hfilter, lastFor_append_singleton]
  split
  · rw [Option.some_or]
  · congr 1
    refine Option.map_congr fun old hmem => ?_
    have hold : old.1 ∈ names fields := List.mem_map_of_mem (mem_of_lastFor hmem).1
    have hne : old.1 ≠ name := fun hsame => hnew (hsame ▸ hold)
    rw [lookup_append_singleton_of_ne value hne]

end

theorem IsListed.lastFor_merge {fields more : Fields α} (h : IsListed fields)
    (hmore : IsListed more) (key : String) :
    (Fields.merge fields more).lastFor key = lastMerged fields more key := by
  induction more using List.reverseRecOn with
  | nil => simp [Fields.merge, lastMerged, lastFor]
  | append_singleton init last ih =>
    obtain ⟨name, value⟩ := last
    obtain ⟨hinit, -, hlast⟩ := List.pairwise_append.mp hmore
    have hfresh : name ∉ names init := by
      intro hmem
      obtain ⟨other, hother, hsame⟩ := List.mem_map.mp hmem
      exact (hlast other hother (name, value) (List.mem_singleton_self _)).1 hsame
    have hmerged : name ∈ names (Fields.merge fields init) ↔ name ∈ names fields := by
      rw [h.mem_names_merge_iff, or_iff_left hfresh]
    rw [merge_append_singleton]
    by_cases hold : name ∈ names fields
    · rw [(h.merge init).lastFor_set_old _ _ (hmerged.mpr hold), ih hinit,
        lastMerged_append_old value key hold hfresh]
    · rw [lastMerged_append_new value key hold]
      split
      · next hkey => exact lastFor_set_new _ _ (mt hmerged.mp hold) hkey
      · next hkey => rw [lastFor_set_other _ _ hkey, ih hinit]

/-! ## Indices and their texts -/

theorem bounds_of_isDigit {c : Char} (h : c.isDigit = true) : 48 ≤ c.toNat ∧ c.toNat ≤ 57 :=
  Char.isDigit_iff_toNat.mp h

theorem toDigits_digit {c : Char} (h : c.isDigit = true) : Nat.toDigits 10 (c.toNat - 48) = [c] := by
  have hbounds := bounds_of_isDigit h
  rw [Nat.toDigits_of_lt_base (by omega)]
  congr 1
  apply Char.toNat_inj.mp
  rw [Nat.toNat_digitChar_of_lt_ten (by omega)]
  omega

/-- Reading digits behind a number puts them behind its text. -/
theorem toDigits_foldl_digits {digits : List Char} (h : ∀ c ∈ digits, c.isDigit = true) {n : Nat}
    (hn : 0 < n) :
    Nat.toDigits 10 (digits.foldl (fun n c => n * 10 + (c.toNat - 48)) n) =
      Nat.toDigits 10 n ++ digits := by
  induction digits generalizing n with
  | nil => rw [List.foldl_nil, List.append_nil]
  | cons c rest ih =>
    obtain ⟨hc, hrest⟩ := List.forall_mem_cons.mp h
    have hlt : c.toNat - 48 < 10 := by
      have hbounds := bounds_of_isDigit hc
      omega
    have hbehind : Nat.toDigits 10 (n * 10 + (c.toNat - 48)) = Nat.toDigits 10 n ++ [c] := by
      rw [← toDigits_digit hc, Nat.toDigits_append_toDigits (by decide) hn hlt, Nat.mul_comm]
    rw [List.foldl_cons, ih hrest (by omega), hbehind, List.append_assoc]
    rfl

/-- An index is written as its number is. -/
theorem toList_of_index? {name : String} {i : Nat} (h : index? name = some i) :
    name.toList = Nat.toDigits 10 i := by
  unfold index? at h
  dsimp only at h
  split at h
  · next hindex =>
    simp only [Bool.and_eq_true, List.all_eq_true] at hindex
    obtain ⟨⟨⟨hdigits, hne⟩, hzero⟩, -⟩ := hindex
    obtain ⟨-, hvalue⟩ := Option.ite_none_right_eq_some.mp h
    obtain rfl := Option.some.inj hvalue
    cases hlist : name.toList with
    | nil => simp [hlist] at hne
    | cons c rest =>
      rw [hlist] at hdigits hzero
      by_cases hc : c = '0'
      · -- zero is the one index that begins with a zero
        obtain rfl : rest = [] := by simpa [hc] using hzero
        subst hc
        rfl
      · obtain ⟨hdigit, hrest⟩ := List.forall_mem_cons.mp hdigits
        have hpos : 0 < 0 * 10 + (c.toNat - 48) := by
          have hbounds := bounds_of_isDigit hdigit
          have hne : c.toNat ≠ 48 := fun heq => hc (Char.toNat_inj.mp heq)
          omega
        rw [List.foldl_cons, toDigits_foldl_digits hrest hpos, Nat.zero_mul, Nat.zero_add,
          toDigits_digit hdigit]
        rfl
  · cases h

theorem index?_inj {a b : String} {i : Nat} (ha : index? a = some i) (hb : index? b = some i) :
    a = b :=
  String.toList_inj.mp ((toList_of_index? ha).trans (toList_of_index? hb).symm)

/-- An index and another name have an order. -/
theorem goesBefore_or_goesBefore {a b : String} (h : (index? a).isSome) (hne : a ≠ b) :
    goesBefore a b = true ∨ goesBefore b a = true := by
  obtain ⟨i, hi⟩ := Option.isSome_iff_exists.mp h
  cases hj : index? b with
  | none => exact .inl (by simp [goesBefore, hi, hj])
  | some j =>
    have hij : i ≠ j := fun heq => hne (index?_inj hi (heq ▸ hj))
    rcases Nat.lt_or_gt_of_ne hij with hlt | hlt
    · exact .inl (by simp [goesBefore, hi, hj, hlt])
    · exact .inr (by simp [goesBefore, hi, hj, hlt])

theorem isSome_index?_of_goesBefore {new old : String} (h : goesBefore new old = true) :
    (index? new).isSome := by
  obtain ⟨i, hi, -⟩ := goesBefore_eq_true_iff.mp h
  rw [hi]
  rfl

/-! ## Setting in another order -/

theorem set_set (fields : Fields α) (name : String) (old value : α) :
    set name value (set name old fields) = set name value fields := by
  induction fields with
  | nil => simp [set]
  | cons field rest ih =>
    obtain ⟨n, v⟩ := field
    by_cases hname : n = name
    · simp [set, hname]
    · by_cases hbefore : goesBefore name n = true <;> simp [set, hname, hbefore, ih]

/-- A field that is there, or whose name is an index, has a place of its own: it does not matter
    whether it is set before another one or after it. -/
theorem set_comm {fields : Fields α} {name other : String} (hne : name ≠ other)
    (h : name ∈ names fields ∨ (index? name).isSome) (value otherValue : α) :
    set name value (set other otherValue fields) = set other otherValue (set name value fields) := by
  induction fields with
  | nil =>
    have hindex : (index? name).isSome := h.resolve_left List.not_mem_nil
    rcases goesBefore_or_goesBefore hindex hne with hbefore | hbefore
    · simp [set, hne, hne.symm, hbefore, goesBefore_asymm hbefore]
    · simp [set, hne, hne.symm, hbefore, goesBefore_asymm hbefore]
  | cons field rest ih =>
    obtain ⟨n, old⟩ := field
    by_cases hname : n = name
    · subst hname
      by_cases hbefore : goesBefore other n = true
      · simp [set, hne, hne.symm, hbefore, goesBefore_asymm hbefore]
      · simp [set, hne, hbefore]
    by_cases hother : n = other
    · subst hother
      by_cases hbefore : goesBefore name n = true
      · simp [set, hname, hne, hbefore, goesBefore_asymm hbefore]
      · simp [set, hname, hbefore]
    by_cases hfirst : goesBefore name n = true
    · by_cases hsecond : goesBefore other n = true
      · rcases goesBefore_or_goesBefore (isSome_index?_of_goesBefore hfirst) hne with hbefore | hbefore
        · simp [set, hname, hother, hne, hne.symm, hfirst, hsecond, hbefore, goesBefore_asymm hbefore]
        · simp [set, hname, hother, hne, hne.symm, hfirst, hsecond, hbefore, goesBefore_asymm hbefore]
      · -- what goes before the new field goes before the old one as well
        have hbehind : goesBefore other name ≠ true := fun hbefore =>
          hsecond (goesBefore_trans hbefore hfirst)
        simp [set, hname, hother, hne, hfirst, hsecond, hbehind]
    · by_cases hsecond : goesBefore other n = true
      · have hbehind : goesBefore name other ≠ true := fun hbefore =>
          hfirst (goesBefore_trans hbefore hsecond)
        simp [set, hname, hother, hne.symm, hfirst, hsecond, hbehind]
      · have hrest : name ∈ names rest ∨ (index? name).isSome := by
          refine h.imp_left fun hm => ?_
          exact (List.mem_cons.mp hm).resolve_left (Ne.symm hname)
        simp [set, hname, hother, hfirst, hsecond, ih hrest]

theorem mem_names_set {fields : Fields α} {name : String} (h : name ∈ names fields) (key : String)
    (value : α) : name ∈ names (set key value fields) := by
  rcases set_cases fields key value with ⟨front, old, back, hsplit, heq⟩ |
    ⟨front, back, hsplit, heq, -, -⟩
  · rw [hsplit] at h
    rw [heq]
    simpa [names] using h
  · rw [hsplit, names, List.map_append, List.mem_append] at h
    rw [heq, names, List.map_append, List.map_cons, List.mem_append, List.mem_cons]
    exact h.imp_right .inr

theorem mem_names_set_self (fields : Fields α) (name : String) (value : α) :
    name ∈ names (set name value fields) := by
  have hget : get? (set name value fields) name = some value := by rw [get?_set, if_pos rfl]
  exact mem_names_of_get? hget

theorem set_merge {fields : Fields α} {name : String}
    (h : name ∈ names fields ∨ (index? name).isSome) {more : Fields α}
    (hmore : ∀ field ∈ more, field.1 ≠ name) (value : α) :
    set name value (merge fields more) = merge (set name value fields) more := by
  induction more generalizing fields with
  | nil => rfl
  | cons field rest ih =>
    obtain ⟨hfield, hrest⟩ := List.forall_mem_cons.mp hmore
    have hset : name ∈ names (set field.1 field.2 fields) ∨ (index? name).isSome :=
      h.imp_left fun hm => mem_names_set hm field.1 field.2
    calc set name value (merge (set field.1 field.2 fields) rest)
        = merge (set name value (set field.1 field.2 fields)) rest := ih hset hrest
      _ = merge (set field.1 field.2 (set name value fields)) rest := by
        rw [set_comm (Ne.symm hfield) h]

theorem merge_append (fields front back : Fields α) :
    merge fields (front ++ back) = merge (merge fields front) back := List.foldl_append

/-- A field that is set upon what is merged may as well be set upon the whole. -/
theorem IsListed.merge_set {more : Fields α} (h : IsListed more) (fields : Fields α) (name : String)
    (value : α) : Fields.merge fields (Fields.set name value more) =
      Fields.set name value (Fields.merge fields more) := by
  have hset : IsListed (Fields.set name value more) := h.set value
  rcases set_cases more name value with ⟨front, old, back, hsplit, heq⟩ |
    ⟨front, back, hsplit, heq, -, hback⟩
  · rw [heq] at hset ⊢
    rw [hsplit, merge_append, merge_append]
    have hthere := mem_names_set_self (Fields.merge fields front) name old
    calc Fields.merge (Fields.set name value (Fields.merge fields front)) back
        = Fields.merge (Fields.set name value (Fields.set name old (Fields.merge fields front))) back := by
          rw [set_set]
      _ = Fields.set name value (Fields.merge (Fields.set name old (Fields.merge fields front)) back) :=
          (set_merge (.inl hthere) hset.ne.2 value).symm
  · rw [heq] at hset ⊢
    rw [hsplit, merge_append, merge_append]
    rcases hback with rfl | hindex
    · rfl
    · exact (set_merge (.inr hindex) hset.ne.2 value).symm

theorem IsListed.merge_assign {more : Fields α} (h : IsListed more) (fields : Fields α) (name : String)
    (value : α) : Fields.merge fields (Fields.assign name value more) =
      Fields.assign name value (Fields.merge fields more) := by
  rw [Fields.assign, Fields.assign]
  split
  · rfl
  · exact h.merge_set fields name value

end Gateway.Fields
