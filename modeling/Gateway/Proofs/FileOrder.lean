import Gateway.Proofs.Json
import Gateway.Proofs.Loading

/- The order of the rules of a file. An object lists its members in another order than that of the
   text, for names that are indices, but no such name ends with a slash: the entries that are read
   keep the order in which their keys are written first, each with the value that is written last
   (`RuleEntry.ofMembers_keeps_order`). -/
namespace Gateway

/-! ## The members that are written -/

namespace Fields
variable {α : Type}

/-- The names that are written, each where it is written first. -/
def writtenNames (pairs : List (String × α)) : List String := (names pairs).eraseDups

/-- The value that is written last for a name. -/
def lastWritten (pairs : List (String × α)) (name : String) : Option α := pairs.reverse.lookup name

theorem mem_writtenNames_iff {pairs : List (String × α)} {name : String} :
    name ∈ writtenNames pairs ↔ name ∈ names pairs := List.mem_eraseDups

theorem writtenNames_append_singleton (pairs : List (String × α)) (pair : String × α) :
    writtenNames (pairs ++ [pair]) =
      writtenNames pairs ++ if pair.1 ∈ names pairs then [] else [pair.1] := by
  have hlast : [pair.1].removeAll (names pairs) = if pair.1 ∈ names pairs then [] else [pair.1] := by
    by_cases hname : pair.1 ∈ names pairs <;> simp [List.removeAll, hname]
  have hnames : names (pairs ++ [pair]) = names pairs ++ [pair.1] := List.map_append
  rw [writtenNames, writtenNames, hnames, List.eraseDups_append, hlast]
  split <;> rfl

theorem nodup_writtenNames (pairs : List (String × α)) : (writtenNames pairs).Nodup := by
  induction pairs using List.reverseRecOn with
  | nil => exact List.nodup_nil
  | append_singleton init last ih =>
    rw [writtenNames_append_singleton]
    split
    · rwa [List.append_nil]
    · next hnew =>
      have hfresh : last.1 ∉ writtenNames init := mt mem_writtenNames_iff.mp hnew
      refine List.nodup_append.mpr ⟨ih, List.pairwise_singleton _ _, fun name hname other hother => ?_⟩
      obtain rfl := List.mem_singleton.mp hother
      exact fun hsame => hfresh (hsame ▸ hname)

theorem ofPairs_append_singleton (pairs : List (String × α)) (pair : String × α) :
    ofPairs (pairs ++ [pair]) = set pair.1 pair.2 (ofPairs pairs) := by
  rw [ofPairs, List.foldl_append]
  rfl

theorem get?_ofPairs (pairs : List (String × α)) (name : String) :
    get? (ofPairs pairs) name = lastWritten pairs name := by
  induction pairs using List.reverseRecOn with
  | nil => rfl
  | append_singleton init last ih =>
    rw [ofPairs_append_singleton, get?_set, ih, lastWritten, lastWritten, List.reverse_append,
      List.reverse_singleton, List.singleton_append, List.lookup_cons]
    split
    · next hname => rw [hname, beq_self_eq_true]
    · next hname => rw [beq_false_of_ne hname]

theorem mem_names_ofPairs_iff {pairs : List (String × α)} {name : String} :
    name ∈ names (ofPairs pairs) ↔ name ∈ names pairs :=
  isListed_nil.mem_names_merge_iff.trans (by simp [names])

theorem nodup_names {fields : Fields α} (h : IsListed fields) : (names fields).Nodup :=
  List.pairwise_map.mpr (h.imp And.left)

theorem perm_names_ofPairs (pairs : List (String × α)) :
    (names (ofPairs pairs)).Perm (writtenNames pairs) :=
  (List.perm_ext_iff_of_nodup (nodup_names (isListed_ofPairs pairs)) (nodup_writtenNames pairs)).mpr
    fun _ => mem_names_ofPairs_iff.trans mem_writtenNames_iff.symm

/-- The names that are no indices are listed as they are written. -/
theorem filter_names_ofPairs (pairs : List (String × α)) :
    (names (ofPairs pairs)).filter (fun name => (index? name).isNone) =
      (writtenNames pairs).filter fun name => (index? name).isNone := by
  induction pairs using List.reverseRecOn with
  | nil => rfl
  | append_singleton init last ih =>
    obtain ⟨name, value⟩ := last
    rw [ofPairs_append_singleton, writtenNames_append_singleton]
    split
    · next hold =>
      rw [(isListed_ofPairs init).names_set _ (mem_names_ofPairs_iff.mpr hold), ih, List.append_nil]
    · next hnew =>
      rw [List.filter_append, ← ih]
      rcases set_cases (ofPairs init) name value with ⟨front, old, back, hsplit, -⟩ |
        ⟨front, back, hsplit, heq, -, hback⟩
      · refine absurd (mem_names_ofPairs_iff.mp ?_) hnew
        rw [hsplit]
        simp [names]
      · rw [heq, hsplit]
        rcases hback with rfl | hindex
        · simp [names]
        · -- an index may be listed further in front, but it is left out
          simp [names, Option.isNone_eq_false_iff.mpr hindex]

end Fields

/-! ## The entries that are read -/

namespace RuleEntry

/-- The object describes the entry: its target, and its rewrite if that is a flag or a text. -/
structure Describes (members : Fields Json) (entry : RuleEntry) : Prop where
  key : entry.key.toList.getLast? = some '/'
  target : Json.member? members "target" = some (.text entry.target)
  nonempty : entry.target ≠ ""
  flag : ∀ on, entry.rewrite = some (.flag on) ↔ Json.member? members "rewrite" = some (.bool on)
  text : ∀ spec, entry.rewrite = some (.text spec) ↔ Json.member? members "rewrite" = some (.text spec)

def isObject : Json → Bool
  | .object _ => true
  | _ => false

/-- The object has a rewrite that is neither a flag nor a text. -/
def hasOtherRewrite : Json → Bool
  | .object members =>
    match Json.member? members "rewrite" with
    | none | some (.bool _) | some (.text _) => false
    | some _ => true
  | _ => false

theorem readRewrite_eq_flag_iff {key : String} {value : Option Json} {on : Bool} :
    (readRewrite key value).1 = some (.flag on) ↔ value = some (.bool on) := by
  cases value with
  | none => simp [readRewrite]
  | some value => cases value <;> simp [readRewrite]

theorem readRewrite_eq_text_iff {key : String} {value : Option Json} {spec : String} :
    (readRewrite key value).1 = some (.text spec) ↔ value = some (.text spec) := by
  cases value with
  | none => simp [readRewrite]
  | some value => cases value <;> simp [readRewrite]

/-- A member gives the entry that its object describes, if there is one. -/
theorem ofMember_eq_some_iff {key : String} {value : Json} {entry : RuleEntry} :
    (ofMember key value).1 = some entry ↔
      entry.key = key ∧ ∃ members, value = .object members ∧ Describes members entry := by
  constructor
  · intro h
    have hgives := gives_ofMember key value
    generalize ofMember key value = read at h hgives
    cases hgives with
    | entry members target hkey htarget hne =>
      cases h
      exact ⟨rfl, members, rfl, hkey, htarget, hne, fun _ => readRewrite_eq_flag_iff,
        fun _ => readRewrite_eq_text_iff⟩
    | _ => cases h
  · rintro ⟨rfl, members, rfl, h⟩
    have hrewrite : (readRewrite entry.key (Json.member? members "rewrite")).1 = entry.rewrite := by
      refine Option.ext fun setting => ?_
      cases setting with
      | flag on => exact readRewrite_eq_flag_iff.trans (h.flag on).symm
      | text spec => exact readRewrite_eq_text_iff.trans (h.text spec).symm
    simp [ofMember, h.key, h.target, h.nonempty, hrewrite]

theorem ofMember_index {name : String} (h : (Fields.index? name).isSome) (value : Json) :
    (ofMember name value).1 = none := by
  cases hentry : (ofMember name value).1 with
  | none => rfl
  | some entry =>
    obtain ⟨rfl, members, -, hdescribes⟩ := ofMember_eq_some_iff.mp hentry
    have hdigit := Fields.isDigit_of_index? h '/' (List.mem_of_getLast? hdescribes.key)
    exact absurd hdigit (by decide)

/-- Each member is read by itself. -/
theorem mem_ofMembers_iff {members : Fields Json} (h : Fields.IsListed members) {entry : RuleEntry} :
    entry ∈ (ofMembers members).1 ↔
      ∃ own, Fields.get? members entry.key = some (.object own) ∧ Describes own entry := by
  rw [ofMembers, List.filterMap_map, List.mem_filterMap]
  constructor
  · rintro ⟨⟨key, value⟩, hm, hentry⟩
    obtain ⟨rfl, own, rfl, hdescribes⟩ := ofMember_eq_some_iff.mp hentry
    exact ⟨own, h.get?_eq_some_iff.mpr hm, hdescribes⟩
  · rintro ⟨own, hget, hdescribes⟩
    exact ⟨(entry.key, .object own), h.get?_eq_some_iff.mp hget,
      ofMember_eq_some_iff.mpr ⟨rfl, own, rfl, hdescribes⟩⟩

theorem ofMembers_cons (name : String) (value : Json) (rest : Fields Json) :
    ofMembers ((name, value) :: rest) = ((ofMember name value).1.toList ++ (ofMembers rest).1,
      (ofMember name value).2 ++ (ofMembers rest).2) := by
  cases hentry : (ofMember name value).1 <;> simp [ofMembers, hentry]

/-- The keys of the entries are listed as the names of the members, without the indices. -/
theorem keys_ofMembers_sublist (members : Fields Json) :
    ((ofMembers members).1.map (·.key)).Sublist
      ((Fields.names members).filter fun name => (Fields.index? name).isNone) := by
  induction members with
  | nil => exact List.Sublist.slnil
  | cons member rest ih =>
    obtain ⟨name, value⟩ := member
    rw [ofMembers_cons]
    cases hentry : (ofMember name value).1 with
    | none => exact ih.trans ((List.sublist_cons_self name _).filter _)
    | some entry =>
      obtain ⟨rfl, -⟩ := ofMember_eq_some_iff.mp hentry
      have hindex : (Fields.index? entry.key).isNone = true := by
        by_contra hindex
        rw [ofMember_index (by simpa [Option.isSome_iff_ne_none] using hindex)] at hentry
        cases hentry
      have hfilter : (Fields.names ((entry.key, value) :: rest)).filter
          (fun name => (Fields.index? name).isNone) =
            entry.key :: (Fields.names rest).filter fun name => (Fields.index? name).isNone :=
        List.filter_cons_of_pos hindex
      rw [hfilter]
      exact ih.cons_cons _

/-! ## The warnings -/

/-- An object that gives no entry is warned about, and so is another rewrite of one that does. -/
theorem length_log_ofMember (key : String) (value : Json) :
    (ofMember key value).2.length =
      (if isObject value && (ofMember key value).1.isNone then 1 else 0) +
        if (ofMember key value).1.isSome && hasOtherRewrite value then 1 else 0 := by
  have hgives := gives_ofMember key value
  generalize ofMember key value = read at hgives
  cases hgives with
  | other hvalue =>
    cases value with
    | object members => exact absurd rfl (hvalue members)
    | _ => rfl
  | badKey => rfl
  | noTarget => rfl
  | entry members =>
    cases hrewrite : Json.member? members "rewrite" with
    | none => simp [readRewrite, hasOtherRewrite, hrewrite]
    | some value => cases value <;> simp [readRewrite, hasOtherRewrite, hrewrite]

theorem length_log_ofMembers (members : Fields Json) :
    (ofMembers members).2.length =
      members.countP (fun member => isObject member.2 && (ofMember member.1 member.2).1.isNone) +
        members.countP fun member =>
          (ofMember member.1 member.2).1.isSome && hasOtherRewrite member.2 := by
  induction members with
  | nil => rfl
  | cons member rest ih =>
    rw [ofMembers_cons, List.length_append, length_log_ofMember, ih, List.countP_cons,
      List.countP_cons]
    omega

theorem level_of_mem_log_readRewrite {key : String} {value : Option Json} {report : LogEntry}
    (h : report ∈ (readRewrite key value).2) : report.level = .warn := by
  unfold readRewrite at h
  split at h
  · cases h
  · cases h
  · cases h
  · obtain rfl := List.mem_singleton.mp h
    rfl

/-- Whatever is reported about the members is a warning. -/
theorem level_of_mem_log {members : Fields Json} {report : LogEntry}
    (h : report ∈ (ofMembers members).2) : report.level = .warn := by
  obtain ⟨read, hread, hreport⟩ := List.mem_flatMap.mp h
  obtain ⟨⟨key, value⟩, -, rfl⟩ := List.mem_map.mp hread
  have hgives := gives_ofMember key value
  dsimp only at hreport
  generalize ofMember key value = read at hgives hreport
  cases hgives with
  | other => cases hreport
  | badKey =>
    obtain rfl := List.mem_singleton.mp hreport
    rfl
  | noTarget =>
    obtain rfl := List.mem_singleton.mp hreport
    rfl
  | entry => exact level_of_mem_log_readRewrite hreport

section
variable {members : Fields Json} (h : Fields.IsListed members)
include h

/-- A member gives an entry exactly if there is one with its name. -/
theorem isSome_ofMember_iff {member : String × Json} (hm : member ∈ members) :
    (ofMember member.1 member.2).1.isSome ↔
      (ofMembers members).1.any (fun entry => entry.key == member.1) := by
  rw [List.any_eq_true, Option.isSome_iff_exists]
  constructor
  · rintro ⟨entry, hentry⟩
    obtain ⟨hkey, own, hvalue, hdescribes⟩ := ofMember_eq_some_iff.mp hentry
    refine ⟨entry, (mem_ofMembers_iff h).mpr ⟨own, ?_, hdescribes⟩, beq_iff_eq.mpr hkey⟩
    rw [hkey, ← hvalue]
    exact h.get?_eq_some_iff.mpr hm
  · rintro ⟨entry, hentry, hkey⟩
    obtain ⟨own, hget, hdescribes⟩ := (mem_ofMembers_iff h).mp hentry
    rw [beq_iff_eq.mp hkey, h.get?_eq_some_iff.mpr hm] at hget
    exact ⟨entry, ofMember_eq_some_iff.mpr ⟨beq_iff_eq.mp hkey, own, Option.some.inj hget, hdescribes⟩⟩

theorem countP_rejected :
    members.countP (fun member => isObject member.2 && (ofMember member.1 member.2).1.isNone) =
      (Fields.names members).countP fun name => (Fields.get? members name).any isObject &&
        !(ofMembers members).1.any fun entry => entry.key == name := by
  rw [Fields.names, List.countP_map]
  refine List.countP_congr fun member hm => ?_
  have hget : Fields.get? members member.1 = some member.2 := h.get?_eq_some_iff.mpr hm
  have hsome := isSome_ofMember_iff h hm
  rw [Function.comp, hget, Option.any_some, ← Option.not_isSome, Bool.eq_iff_iff.mpr hsome]

theorem countP_otherRewrite :
    members.countP (fun member => (ofMember member.1 member.2).1.isSome && hasOtherRewrite member.2) =
      (ofMembers members).1.countP fun entry =>
        (Fields.get? members entry.key).any hasOtherRewrite := by
  rw [ofMembers, List.filterMap_map, List.countP_filterMap]
  refine List.countP_congr fun member hm => ?_
  rw [Function.comp]
  cases hentry : (ofMember member.1 member.2).1 with
  | none => simp
  | some entry =>
    obtain ⟨hkey, -⟩ := ofMember_eq_some_iff.mp hentry
    have hget : Fields.get? members entry.key = some member.2 := by
      rw [hkey]
      exact h.get?_eq_some_iff.mpr hm
    simp [hget]

end

/-- The entries and the log that the written members should give. -/
structure ReadInOrder (pairs : List (String × Json)) (entries : List RuleEntry) (log : Log) : Prop where
  /-- The keys stand in the order in which they are first written. -/
  order : (entries.map (·.key)).Sublist (Fields.writtenNames pairs)
  once : (entries.map (·.key)).Nodup
  /-- There is an entry for each key with a final slash whose last value is an object with a target. -/
  mem_iff : ∀ entry, entry ∈ entries ↔ ∃ members,
    Fields.lastWritten pairs entry.key = some (.object members) ∧ Describes members entry
  warnings : ∀ report ∈ log, report.level = .warn
  /-- There is a warning for each object without an entry, and one for each rewrite of an entry that is
      of another kind. -/
  count : log.length =
    (Fields.writtenNames pairs).countP (fun key =>
      (Fields.lastWritten pairs key).any isObject && !entries.any fun entry => entry.key == key) +
    entries.countP fun entry => (Fields.lastWritten pairs entry.key).any hasOtherRewrite

/-- Whatever the text of an object is, its entries are read in the order of the text. -/
theorem ofMembers_keeps_order {text : String} {members : Fields Json}
    (h : Json.parse? text = some (.object members)) :
    ∃ pairs, Json.members? text = some pairs ∧
      ReadInOrder pairs (ofMembers members).1 (ofMembers members).2 := by
  obtain ⟨pairs, hpairs, rfl⟩ := Json.parse?_eq_object_iff.mp h
  have hlisted := Fields.isListed_ofPairs pairs
  have horder : ((ofMembers (Fields.ofPairs pairs)).1.map (·.key)).Sublist
      (Fields.writtenNames pairs) := by
    refine (keys_ofMembers_sublist _).trans ?_
    rw [Fields.filter_names_ofPairs]
    exact List.filter_sublist
  refine ⟨pairs, hpairs, horder, (Fields.nodup_writtenNames pairs).sublist horder, fun entry => ?_,
    fun report => level_of_mem_log, ?_⟩
  · rw [mem_ofMembers_iff hlisted, Fields.get?_ofPairs]
  · rw [length_log_ofMembers, countP_rejected hlisted, countP_otherRewrite hlisted,
      (Fields.perm_names_ofPairs pairs).countP_eq]
    simp only [Fields.get?_ofPairs]

/-- The text of an object with an index between the two places of a key. -/
def repeatedKey : String :=
  "\x7b\"b/\":null,\"7\":\x7b\x7d,\"b/\":\x7b\"target\":\"x\"\x7d\x7d"

theorem repeatedKey_readInOrder :
    ∃ members, Json.parse? repeatedKey = some (.object members) ∧
      ofMembers members = ([⟨"b/", "x", none⟩], [badKey "7"]) ∧
      ∃ pairs, Json.members? repeatedKey = some pairs ∧
        ReadInOrder pairs (ofMembers members).1 (ofMembers members).2 := by
  have hcheck : ((Json.parse? repeatedKey).any fun
      | .object members => decide (ofMembers members = ([⟨"b/", "x", none⟩], [badKey "7"]))
      | _ => false) = true := by decide +kernel
  obtain ⟨json, hparse, hread⟩ := (Option.any_eq_true _ _).mp hcheck
  cases json with
  | object members =>
    exact ⟨members, hparse, of_decide_eq_true hread, ofMembers_keeps_order hparse⟩
  | _ => cases hread

end RuleEntry

end Gateway
