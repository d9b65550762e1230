import Gateway.Json
import Gateway.Proofs.Fields

/- What is read from JSON texts. Every object that is read lists its members as an object does
   (`isOrdered_of_parse?`), and a text that is read as an object has the members that it is written
   with, set one after the other (`parse?_eq_object_iff`). -/
namespace Gateway.Json

/-- Every object in the value lists its members as an object does. -/
inductive IsOrdered : Json → Prop
  | null : IsOrdered .null
  | bool (value : Bool) : IsOrdered (.bool value)
  | number (value : Number) : IsOrdered (.number value)
  | text (value : String) : IsOrdered (.text value)
  | array {items : List Json} (hitems : ∀ item ∈ items, IsOrdered item) : IsOrdered (.array items)
  | object {members : Fields Json} (hlisted : Fields.IsListed members)
      (hmembers : ∀ member ∈ members, IsOrdered member.2) : IsOrdered (.object members)

theorem IsOrdered.of_member? {members : Fields Json} {name : String} {value : Json}
    (h : IsOrdered (.object members)) (hvalue : member? members name = some value) :
    value.IsOrdered := by
  cases h with
  | object hlisted hmembers => exact hmembers _ (Fields.mem_of_lookup hvalue)

theorem IsOrdered.of_readWord {word s rest : List Char} {constant value : Json}
    (hordered : constant.IsOrdered) (h : readWord word constant s = some (value, rest)) :
    value.IsOrdered := by
  unfold readWord at h
  split at h <;> cases h
  exact hordered

/-- The members of an object come from the text. -/
theorem isOrdered_ofPairs {pairs : List (String × Json)} (h : ∀ pair ∈ pairs, pair.2.IsOrdered) :
    IsOrdered (.object (Fields.ofPairs pairs)) := by
  refine .object (Fields.isListed_ofPairs pairs) fun member hm => h member ?_
  exact (Fields.isListed_nil.mem_of_mem_merge hm).resolve_right List.not_mem_nil

/-- Whatever is read with any fuel lists its members as objects do. -/
theorem isOrdered_of_read (fuel : Nat) :
    (∀ s value rest, readValue fuel s = some (value, rest) → value.IsOrdered) ∧
    (∀ s items rest, readItems fuel s = some (items, rest) → ∀ item ∈ items, item.IsOrdered) ∧
    ∀ s pairs rest, readMembers fuel s = some (pairs, rest) → ∀ pair ∈ pairs, pair.2.IsOrdered := by
  induction fuel with
  | zero => simp [readValue, readItems, readMembers]
  | succ fuel ih =>
    obtain ⟨ihValue, ihItems, ihMembers⟩ := ih
    refine ⟨fun s value rest h => ?_, fun s items rest h => ?_, fun s pairs rest h => ?_⟩
    · unfold readValue at h
      split at h
      · cases h
      · split at h
        · obtain ⟨⟨text, rest⟩, -, heq⟩ := Option.map_eq_some_iff.mp h
          cases heq
          exact .text text
        · split at h
          · cases h
            exact .array (by simp)
          · obtain ⟨⟨items, rest⟩, hitems, heq⟩ := Option.map_eq_some_iff.mp h
            cases heq
            exact .array (ihItems _ _ _ hitems)
        · split at h
          · cases h
            exact .object Fields.isListed_nil (by simp)
          · obtain ⟨⟨pairs, rest⟩, hpairs, heq⟩ := Option.map_eq_some_iff.mp h
            cases heq
            exact isOrdered_ofPairs (ihMembers _ _ _ hpairs)
        · exact .of_readWord (.bool true) h
        · exact .of_readWord (.bool false) h
        · exact .of_readWord .null h
        · obtain ⟨⟨number, rest⟩, -, heq⟩ := Option.map_eq_some_iff.mp h
          cases heq
          exact .number number
    · unfold readItems at h
      obtain ⟨⟨item, behind⟩, hitem, h⟩ := Option.bind_eq_some_iff.mp h
      have hfirst := ihValue _ _ _ hitem
      dsimp only at h
      split at h
      · cases h
        simpa using hfirst
      · obtain ⟨⟨more, behind⟩, hmore, heq⟩ := Option.bind_eq_some_iff.mp h
        cases heq
        exact List.forall_mem_cons.mpr ⟨hfirst, ihItems _ _ _ hmore⟩
      · cases h
    · unfold readMembers at h
      split at h
      · obtain ⟨⟨name, behind⟩, -, h⟩ := Option.bind_eq_some_iff.mp h
        dsimp only at h
        split at h
        · obtain ⟨⟨value, behind⟩, hvalue, h⟩ := Option.bind_eq_some_iff.mp h
          have hfirst := ihValue _ _ _ hvalue
          dsimp only at h
          split at h
          · cases h
            simpa using hfirst
          · obtain ⟨⟨more, behind⟩, hmore, heq⟩ := Option.bind_eq_some_iff.mp h
            cases heq
            exact List.forall_mem_cons.mpr ⟨hfirst, ihMembers _ _ _ hmore⟩
          · cases h
        · cases h
      · cases h

theorem isOrdered_of_parse? {text : String} {json : Json} (h : parse? text = some json) :
    json.IsOrdered := by
  unfold parse? at h
  split at h
  · next value rest hread =>
    obtain ⟨-, hvalue⟩ := Option.ite_none_right_eq_some.mp h
    obtain rfl := Option.some.inj hvalue
    exact (isOrdered_of_read _).1 _ _ _ hread
  · cases h

theorem readWord_ne_object {word s : List Char} {constant : Json} {members : Fields Json}
    {rest : List Char} (h : ∀ m, constant ≠ .object m) :
    readWord word constant s ≠ some (.object members, rest) := by
  unfold readWord
  split
  · intro heq
    cases heq
    exact h members rfl
  · simp

/-- The members of an object behind its brace, in the order of the text. -/
def readObject (fuel : Nat) (s : List Char) : Option (List (String × Json) × List Char) :=
  match skip s with
  | '\x7d' :: rest => some ([], rest)
  | front => readMembers fuel front

theorem readValue_brace (fuel : Nat) (s : List Char) :
    readValue (fuel + 1) ('\x7b' :: s) =
      (readObject fuel s).map fun read => (.object (Fields.ofPairs read.1), read.2) := by
  show (match skip s with
    | '\x7d' :: rest => some (Json.object [], rest)
    | front => (readMembers fuel front).map fun (pairs, rest) =>
      (Json.object (Fields.ofPairs pairs), rest)) = _
  unfold readObject
  split <;> rfl

/-- Only what begins with a brace is an object. -/
theorem readValue_eq_object_iff {fuel : Nat} {s : List Char} {members : Fields Json}
    {rest : List Char} :
    readValue (fuel + 1) s = some (.object members, rest) ↔ ∃ behind pairs, s = '\x7b' :: behind ∧
      readObject fuel behind = some (pairs, rest) ∧ Fields.ofPairs pairs = members := by
  constructor
  · intro h
    by_cases hbrace : ∃ behind, s = '\x7b' :: behind
    · obtain ⟨behind, rfl⟩ := hbrace
      rw [readValue_brace] at h
      obtain ⟨⟨pairs, more⟩, hpairs, heq⟩ := Option.map_eq_some_iff.mp h
      cases heq
      exact ⟨behind, pairs, rfl, hpairs, rfl⟩
    · unfold readValue at h
      split at h
      · cases h
      · split at h
        · obtain ⟨pair, -, heq⟩ := Option.map_eq_some_iff.mp h
          cases heq
        · split at h
          · cases h
          · obtain ⟨pair, -, heq⟩ := Option.map_eq_some_iff.mp h
            cases heq
        · exact absurd ⟨_, rfl⟩ hbrace
        · exact absurd h (readWord_ne_object (by simp))
        · exact absurd h (readWord_ne_object (by simp))
        · exact absurd h (readWord_ne_object (by simp))
        · obtain ⟨pair, -, heq⟩ := Option.map_eq_some_iff.mp h
          cases heq
  · rintro ⟨behind, pairs, rfl, hpairs, rfl⟩
    rw [readValue_brace, hpairs]
    rfl

/-- The members of a text are those behind its brace, if nothing but blanks follows them. -/
theorem members?_eq_some_iff {text : String} {pairs : List (String × Json)} :
    members? text = some pairs ↔ ∃ behind rest, skip text.toList = '\x7b' :: behind ∧
      readObject (fuelFor text.toList - 1) behind = some (pairs, rest) ∧ skip rest = [] := by
  unfold members? readObject
  split
  · next behind hskip =>
    rw [hskip]
    split
    · next rest hclose => simp [hclose, and_comm]
    · next hopen =>
      split
      · next hread => simp_all [and_comm]
      · next hread => simp_all
  · next hbrace => simp_all

/-- A text that is read as an object has the members that it is written with, set one after the
    other. -/
theorem parse?_eq_object_iff {text : String} {members : Fields Json} :
    parse? text = some (.object members) ↔
      ∃ pairs, members? text = some pairs ∧ Fields.ofPairs pairs = members := by
  have hread : parse? text = some (.object members) ↔ ∃ rest,
      readValue (fuelFor text.toList) (skip text.toList) = some (.object members, rest) ∧
        skip rest = [] := by
    unfold parse?
    cases readValue (fuelFor text.toList) (skip text.toList) with
    | none => simp
    | some read =>
      obtain ⟨value, rest⟩ := read
      simp [and_comm]
  rw [hread]
  simp only [members?_eq_some_iff]
  constructor
  · rintro ⟨rest, hvalue, hend⟩
    obtain ⟨behind, pairs, hskip, hpairs, hmembers⟩ := readValue_eq_object_iff.mp hvalue
    exact ⟨pairs, ⟨behind, rest, hskip, hpairs, hend⟩, hmembers⟩
  · rintro ⟨pairs, ⟨behind, rest, hskip, hpairs, hend⟩, hmembers⟩
    exact ⟨rest, readValue_eq_object_iff.mpr ⟨behind, pairs, hskip, hpairs, hmembers⟩, hend⟩

end Gateway.Json
