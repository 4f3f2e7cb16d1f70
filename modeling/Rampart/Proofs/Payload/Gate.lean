import Mathlib
import Rampart.Proofs.Json.Nodes
import Rampart.Proofs.Payload.Reading

/-!
# The allow-list is a gate

Taking the tags out of a document removes members, goes into the others and may put a part in place
of the whole.  None of this skips an object: the outcome is told by the faults of all objects of the
document in pre-order, and the first of them wins.

* `errorOf_bindTree` : the fault of taking tags out is that of the first object that has one;
* `every_tag_trusted_or_refused` : what that means for reading payloads.
-/

namespace Rampart.Payload

variable {C : Catalogue}

/-! ## The fault of an object -/

/-- The failure for a tag that is not trusted: an unknown type, or a tag that is no text. -/
def tagFailure : Json → Failure
  | .str tag => .refused (.unknownType (TypeName.tagKey tag).identity (TypeName.tagKey tag).name)
  | v => .payload (.tagNotText v.write)

/-- Whether the allow-list has the type that a tag names. -/
def accepts (l : AllowList C) : Json → Bool
  | .str tag => (l.find? (TypeName.tagKey tag)).isSome
  | _ => false

/-- The fault of a node, apart from what is inside it: only the tag of an object can have one. -/
def fault (l : AllowList C) (n : Json) : Option Failure :=
  (n.get? typeKey).bind fun v => if accepts l v then none else some (tagFailure v)

/-- The fault of resolving a tag is that of the tag. -/
theorem errorOf_resolveTag (l : AllowList C) (v : Json) :
    errorOf (resolveTag l v) = if accepts l v then none else some (tagFailure v) := by
  cases v with
  | str tag =>
    rw [resolveTag, AllowList.resolve, accepts]
    cases l.find? (TypeName.tagKey tag) <;> rfl
  | null => rfl
  | bool b => rfl
  | num n => rfl
  | arr items => rfl
  | obj members => rfl

/-! ## Taking tags out -/

/-- The fault of an object is its own, or else that of its members. -/
theorem errorOf_bindTree_obj (l : AllowList C) (members : List (Text × Json)) :
    errorOf (bindTree l (.obj members))
      = (fault l (.obj members)).or (errorOf (bindMembers l members)) := by
  have hmembers : (errorOf (bindMembers l members)).or none = errorOf (bindMembers l members) :=
    Option.or_none
  rw [fault, Json.get?]
  cases htag : Json.lookup typeKey members with
  | some v =>
    rw [bindTree_obj_of_lookup l htag, Option.bind_some, ← errorOf_resolveTag]
    -- whatever type the tag names, and whatever the members become, no more can go wrong
    refine errorOf_bind fun d => ?_
    rw [← hmembers]
    exact errorOf_bind fun rest => rfl
  | none =>
    rw [bindTree_obj_of_not_mem l htag, Option.bind_none, Option.none_or, ← hmembers]
    exact errorOf_bind fun rest => rfl

/-- The fault of items is the first that their nodes have, if this holds of each item. -/
theorem errorOf_bindItems {l : AllowList C} {items : List Json}
    (h : ∀ j ∈ items, errorOf (bindTree l j) = j.nodes.findSome? (fault l)) :
    errorOf (bindItems l items) = (items.flatMap Json.nodes).findSome? (fault l) := by
  induction items with
  | nil => rfl
  | cons j rest ih =>
    rw [List.forall_mem_cons] at h
    rw [bindItems_cons, List.flatMap_cons, List.findSome?_append, ← h.1, ← ih h.2]
    refine errorOf_bind fun r => ?_
    rw [← Option.or_none (o := errorOf (bindItems l rest))]
    exact errorOf_bind fun items' => rfl

/-- The fault of members is the first that the nodes of their values have, if this holds of each
value.  The tag itself is passed over, so nothing may be wrong inside it. -/
theorem errorOf_bindMembers {l : AllowList C} {members : List (Text × Json)}
    (h : ∀ m ∈ members, errorOf (bindTree l m.2) = m.2.nodes.findSome? (fault l))
    (htag : ∀ m ∈ members, m.1 = typeKey → m.2.nodes.findSome? (fault l) = none) :
    errorOf (bindMembers l members)
      = (members.flatMap fun m => m.2.nodes).findSome? (fault l) := by
  induction members with
  | nil => rfl
  | cons m rest ih =>
    obtain ⟨k, j⟩ := m
    rw [List.forall_mem_cons] at h htag
    rw [List.flatMap_cons, List.findSome?_append, ← ih h.2 htag.2]
    by_cases hk : k = typeKey
    · rw [htag.1 hk, Option.none_or, hk, bindMembers_cons_typeKey]
    · rw [bindMembers_cons_of_ne l hk, ← h.1]
      refine errorOf_bind fun r => ?_
      rw [← Option.or_none (o := errorOf (bindMembers l rest))]
      exact errorOf_bind fun members' => rfl

/-- **First fault in pre-order.**  Taking the tags out of a document fails exactly when some object
has a fault, and then with the fault of the first such object. -/
theorem errorOf_bindTree {l : AllowList C} {j : Json} (hj : j.KeysDistinct) :
    errorOf (bindTree l j) = j.nodes.findSome? (fault l) := by
  induction j using Json.induction with
  | null => rfl
  | bool b => rfl
  | num n => rfl
  | str s => rfl
  | arr items ih =>
    rw [Json.keysDistinct_arr] at hj
    rw [Json.nodes_arr, List.findSome?_cons, bindTree_arr]
    show _ = (items.flatMap Json.nodes).findSome? (fault l)
    rw [← errorOf_bindItems fun j hmem => ih j hmem (hj j hmem),
      ← Option.or_none (o := errorOf (bindItems l items))]
    exact errorOf_bind fun items' => rfl
  | obj members ih =>
    rw [Json.keysDistinct_obj] at hj
    rw [errorOf_bindTree_obj, Json.nodes_obj, List.findSome?_cons]
    cases hfault : fault l (.obj members) with
    | some f => rfl
    | none =>
      rw [Option.none_or]
      refine errorOf_bindMembers (fun m hm => ih m hm (hj.2 m hm)) fun m hm hkey => ?_
      -- the object has no fault, so its tag is a text, and there is nothing inside a text
      obtain ⟨k, v⟩ := m
      obtain rfl : k = typeKey := hkey
      rw [fault, Json.get?, Json.lookup_of_mem hj.1 hm, Option.bind_some] at hfault
      cases v with
      | str tag => rfl
      | null => cases hfault
      | bool b => cases hfault
      | num n => cases hfault
      | arr items => cases hfault
      | obj ms => cases hfault

/-! ## Trusted tags -/

/-- A node is trusted if its tag, where it has one, is a text and has the key of a candidate. -/
def Trusted (cs : List (Descriptor C)) (n : Json) : Prop :=
  ∀ v, n.get? typeKey = some v → ∃ tag, v = .str tag ∧ ∃ d ∈ cs, d.key = TypeName.tagKey tag

/-- An allow-list accepts the texts that have the key of a candidate it was built from. -/
theorem accepts_iff_of_build {cs : List (Descriptor C)} {l : AllowList C}
    (hbuild : AllowList.build (some cs) = .ok l) (v : Json) :
    accepts l v ↔ ∃ tag, v = .str tag ∧ ∃ d ∈ cs, d.key = TypeName.tagKey tag := by
  cases v with
  | str tag =>
    have hfind := AllowList.find?_eq_none_iff_of_build hbuild (TypeName.tagKey tag)
    rw [accepts, Option.isSome_iff_ne_none, Ne, hfind]
    simp
  | null => simp [accepts]
  | bool b => simp [accepts]
  | num n => simp [accepts]
  | arr items => simp [accepts]
  | obj members => simp [accepts]

/-- The nodes without fault are the trusted ones. -/
theorem fault_eq_none_iff {cs : List (Descriptor C)} {l : AllowList C}
    (hbuild : AllowList.build (some cs) = .ok l) (n : Json) :
    fault l n = none ↔ Trusted cs n := by
  rw [fault, Option.bind_eq_none_iff, Trusted]
  refine forall_congr' fun v => imp_congr_right fun _ => ?_
  rw [← accepts_iff_of_build hbuild v]
  split
  · rename_i h
    exact iff_of_true rfl h
  · rename_i h
    exact iff_of_false (Option.some_ne_none _) h

/-- The fault of a node is the failure for its tag. -/
theorem eq_tagFailure_of_fault {l : AllowList C} {n : Json} {f : Failure}
    (h : fault l n = some f) : ∃ v, n.get? typeKey = some v ∧ f = tagFailure v := by
  rw [fault, Option.bind_eq_some_iff] at h
  obtain ⟨v, hv, h⟩ := h
  split at h
  · cases h
  · exact ⟨v, hv, (Option.some.inj h).symm⟩

/-- Taking tags out fails only because of a tag. -/
theorem failure_of_bindTree {l : AllowList C} {j : Json} {f : Failure} (hj : j.KeysDistinct)
    (h : bindTree l j = .error f) : ∃ v, f = tagFailure v := by
  have hfirst : j.nodes.findSome? (fault l) = some f := by
    rw [← errorOf_bindTree hj, errorOf_eq_some_iff]
    exact h
  obtain ⟨n, -, hn⟩ := List.exists_of_findSome?_eq_some hfirst
  obtain ⟨v, -, hv⟩ := eq_tagFailure_of_fault hn
  exact ⟨v, hv⟩

/-! ## Reading payloads -/

/-- Where some node is not trusted, tags are not taken out.  The failure is that for the tag of the
first such node. -/
theorem bindTree_of_not_trusted {cs : List (Descriptor C)} {l : AllowList C} {j : Json}
    (hbuild : AllowList.build (some cs) = .ok l) (hj : j.KeysDistinct)
    (h : ∃ n ∈ j.nodes, ¬ Trusted cs n) :
    ∃ before n after v, j.nodes = before ++ n :: after ∧ (∀ m ∈ before, Trusted cs m) ∧
      ¬ Trusted cs n ∧ n.get? typeKey = some v ∧ bindTree l j = .error (tagFailure v) := by
  obtain ⟨n₀, hn₀, huntrusted⟩ := h
  -- the first node that is not trusted is the first with a fault
  cases hfirst : j.nodes.findSome? (fault l) with
  | none =>
    rw [List.findSome?_eq_none_iff] at hfirst
    exact absurd ((fault_eq_none_iff hbuild n₀).1 (hfirst n₀ hn₀)) huntrusted
  | some f =>
    have hbind : bindTree l j = .error f := by
      rw [← errorOf_eq_some_iff, errorOf_bindTree hj, hfirst]
    rw [List.findSome?_eq_some_iff] at hfirst
    obtain ⟨before, n, after, hnodes, hfault, hbefore⟩ := hfirst
    obtain ⟨v, hv, rfl⟩ := eq_tagFailure_of_fault hfault
    refine ⟨before, n, after, v, hnodes, fun m hm => ?_, fun htrusted => ?_, hv, hbind⟩
    · exact (fault_eq_none_iff hbuild m).1 (hbefore m hm)
    · rw [(fault_eq_none_iff hbuild n).2 htrusted] at hfault
      cases hfault

/-- **The gate.**  Take a document that a serializer has read from a payload, with an allow-list
built from `cs`.  If anything is decoded from it, all its tags are texts that name members of `cs`,
at whatever depth they stand.  If some tag is not, then nothing is decoded as whatever type, and the
failure is that for the first such tag in pre-order. -/
theorem every_tag_trusted_or_refused {cs : List (Descriptor C)} {l : AllowList C}
    {s : Serializer C} {payload : Text} {j : Json}
    (hbuild : AllowList.build (some cs) = .ok l) (hactive : s.active = some l)
    (hread : s.readDocument payload = .ok j) (c : C.Code) :
    ((∃ v, (s.deserialize c payload).result = .ok v) ∨
        (∃ b, (s.deserializeBound payload).result = .ok b) → ∀ n ∈ j.nodes, Trusted cs n) ∧
      ((∃ n ∈ j.nodes, ¬ Trusted cs n) → ∃ before n after v, j.nodes = before ++ n :: after ∧
        (∀ m ∈ before, Trusted cs m) ∧ ¬ Trusted cs n ∧ n.get? typeKey = some v ∧
        (s.deserialize c payload).result = .error (tagFailure v) ∧
        (s.deserializeBound payload).result = .error (tagFailure v)) := by
  have hj : j.KeysDistinct :=
    Json.keysDistinct_of_parse (Serializer.readDocument_eq_ok_iff.1 hread).2.1
  rw [Serializer.result_deserialize hactive hread, Serializer.result_deserializeBound hactive hread]
  constructor
  · intro hok
    by_contra hall
    push Not at hall
    obtain ⟨-, -, -, v, -, -, -, -, hbind⟩ := bindTree_of_not_trusted hbuild hj hall
    rw [hbind] at hok
    rcases hok with ⟨v, h⟩ | ⟨b, h⟩
    · cases h
    · cases h
  · intro hsome
    obtain ⟨before, n, after, v, hnodes, hbefore, hn, hv, hbind⟩ :=
      bindTree_of_not_trusted hbuild hj hsome
    rw [hbind]
    exact ⟨before, n, after, v, hnodes, hbefore, hn, hv, rfl, rfl⟩

namespace Sample

/-- A tag that is trusted, around an array with one more. -/
def trusted : Json :=
  .obj [(valuesKey, .arr [.obj [(typeKey, .str ['D', ',', 'd'])]]), (typeKey, .str ['D', ',', 'd'])]

/-- A tag that is trusted, one that is a number, and one that is unknown. -/
def mixed : Json :=
  .arr [.obj [(typeKey, .str ['D', ',', 'd'])], .obj [(['a'], .obj [(typeKey, .num (.int 7))])],
    .obj [(typeKey, .str ['E'])]]

theorem readsBack_trusted : trusted.ReadsBack := by
  have hvalues : valuesKey ≠ Json.wrapMark := by decide
  have htype : typeKey ≠ Json.wrapMark := by decide
  have hne : valuesKey ≠ typeKey := by decide
  simp [trusted, Json.readsBack_arr, Json.readsBack_obj, Json.readsBack_str, Json.keys, hvalues,
    htype, hne]

theorem readsBack_mixed : mixed.ReadsBack := by
  have htype : typeKey ≠ Json.wrapMark := by decide
  have ha : ['a'] ≠ Json.wrapMark := by decide
  simp [mixed, Json.readsBack_arr, Json.readsBack_obj, Json.readsBack_str, Json.readsBack_int,
    Json.keys, htype, ha]

end Sample

/-- The gate lets a document with nested trusted tags through, and stops one with a number in place
of a tag. -/
theorem every_tag_trusted_or_refused_nested :
    (∀ n ∈ Sample.trusted.nodes, Trusted [Sample.descriptor] n) ∧
      ∃ before n after v, Sample.mixed.nodes = before ++ n :: after ∧
        (∀ m ∈ before, Trusted [Sample.descriptor] m) ∧ ¬ Trusted [Sample.descriptor] n ∧
        n.get? typeKey = some v ∧
        ((Sample.serializer .auto).deserialize () Sample.mixed.write).result
          = .error (tagFailure v) ∧
        ((Sample.serializer .auto).deserializeBound Sample.mixed.write).result
          = .error (tagFailure v) := by
  have hactive : (Sample.serializer .auto).active = some Sample.allowList := rfl
  have htrusted : (Sample.serializer .auto).readDocument Sample.trusted.write
      = .ok Sample.trusted :=
    Serializer.readDocument_write Sample.readsBack_trusted (by decide) (by decide)
  have hmixed : (Sample.serializer .auto).readDocument Sample.mixed.write = .ok Sample.mixed :=
    Serializer.readDocument_write Sample.readsBack_mixed (by decide) (by decide)
  refine ⟨(every_tag_trusted_or_refused Sample.build_allowList hactive htrusted ()).1 (Or.inl ?_),
    (every_tag_trusted_or_refused Sample.build_allowList hactive hmixed ()).2 ?_⟩
  · exact ⟨.arr [.obj []], Serializer.result_deserialize hactive htrusted ()⟩
  · refine ⟨.obj [(typeKey, .num (.int 7))], by simp [Sample.mixed], fun h => ?_⟩
    obtain ⟨tag, htag, -⟩ := h (.num (.int 7)) rfl
    cases htag

end Rampart.Payload
