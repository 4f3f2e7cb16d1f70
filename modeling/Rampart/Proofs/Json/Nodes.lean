import Mathlib
import Rampart.Json.Reader
import Rampart.Proofs.Sequencing

/-!
# The nodes of a document

A document is walked in pre-order: a value before its items or members, and these in their order.
What is read from a text never has two members of one key in one object.

* `Json.induction` : induction on a value from its items and members;
* `Json.nodes` : all values inside a value, itself first;
* `Json.keysDistinct_of_parse` : the keys of a document are distinct.
-/

namespace Rampart.Json

/-- Induction on a value: what holds of it when it holds of all its items, or of the values of all
its members, holds of every value. -/
@[elab_as_elim]
theorem induction {P : Json → Prop} (null : P .null) (bool : ∀ b, P (.bool b))
    (num : ∀ n, P (.num n)) (str : ∀ s, P (.str s))
    (arr : ∀ items, (∀ j ∈ items, P j) → P (.arr items))
    (obj : ∀ members, (∀ m ∈ members, P m.2) → P (.obj members)) : ∀ j, P j
  | .null => null
  | .bool b => bool b
  | .num n => num n
  | .str s => str s
  | .arr items => arr items fun j _ => induction null bool num str arr obj j
  | .obj members => obj members fun m _ => induction null bool num str arr obj m.2
termination_by j => sizeOf j
decreasing_by
  · rename_i hj
    have := List.sizeOf_lt_of_mem hj
    simp only [Json.arr.sizeOf_spec]
    omega
  · rename_i hm
    have := List.sizeOf_lt_of_mem hm
    obtain ⟨k, v⟩ := m
    simp only [Json.obj.sizeOf_spec, Prod.mk.sizeOf_spec] at this ⊢
    omega

/-! ## Pre-order -/

mutual
/-- A value and all values inside it, each before what is inside it. -/
def nodes : Json → List Json
  | .arr items => .arr items :: nodesOfItems items
  | .obj members => .obj members :: nodesOfMembers members
  | j => [j]

/-- The nodes of the items of an array. -/
def nodesOfItems : List Json → List Json
  | [] => []
  | j :: rest => nodes j ++ nodesOfItems rest

/-- The nodes of the values of members. -/
def nodesOfMembers : List (Text × Json) → List Json
  | [] => []
  | (_, j) :: rest => nodes j ++ nodesOfMembers rest
end

@[simp] theorem nodes_null : nodes .null = [.null] := rfl

@[simp] theorem nodes_bool (b : Bool) : nodes (.bool b) = [.bool b] := rfl

@[simp] theorem nodes_num (n : JsonNumber) : nodes (.num n) = [.num n] := rfl

@[simp] theorem nodes_str (s : Text) : nodes (.str s) = [.str s] := rfl

@[simp] theorem nodes_arr (items : List Json) :
    nodes (.arr items) = .arr items :: items.flatMap nodes := by
  rw [nodes]
  congr 1
  induction items with
  | nil => rfl
  | cons j rest ih => rw [nodesOfItems, ih, List.flatMap_cons]

@[simp] theorem nodes_obj (members : List (Text × Json)) :
    nodes (.obj members) = .obj members :: members.flatMap fun m => m.2.nodes := by
  rw [nodes]
  congr 1
  induction members with
  | nil => rfl
  | cons m rest ih => rw [nodesOfMembers, ih, List.flatMap_cons]

/-- What holds of all nodes of an array holds of it and of all nodes of its items. -/
theorem forall_nodes_arr {P : Json → Prop} {items : List Json} :
    (∀ n ∈ nodes (.arr items), P n) ↔ P (.arr items) ∧ ∀ j ∈ items, ∀ n ∈ j.nodes, P n := by
  rw [nodes_arr, List.forall_mem_cons]
  refine and_congr_right fun _ => ⟨fun h j hj n hn => ?_, fun h n hn => ?_⟩
  · exact h n (List.mem_flatMap.2 ⟨j, hj, hn⟩)
  · obtain ⟨j, hj, hn⟩ := List.mem_flatMap.1 hn
    exact h j hj n hn

/-- What holds of all nodes of an object holds of it and of all nodes of its members' values. -/
theorem forall_nodes_obj {P : Json → Prop} {members : List (Text × Json)} :
    (∀ n ∈ nodes (.obj members), P n) ↔
      P (.obj members) ∧ ∀ m ∈ members, ∀ n ∈ m.2.nodes, P n := by
  rw [nodes_obj, List.forall_mem_cons]
  refine and_congr_right fun _ => ⟨fun h m hm n hn => ?_, fun h n hn => ?_⟩
  · exact h n (List.mem_flatMap.2 ⟨m, hm, hn⟩)
  · obtain ⟨m, hm, hn⟩ := List.mem_flatMap.1 hn
    exact h m hm n hn

/-! ## Members -/

/-- The keys of members. -/
def keys (members : List (Text × Json)) : List Text := members.map Prod.fst

/-- A key is found exactly when some member has it. -/
theorem lookup_eq_none_iff {key : Text} {members : List (Text × Json)} :
    lookup key members = none ↔ key ∉ keys members := by
  induction members with
  | nil => simp [lookup, keys]
  | cons m rest ih =>
    obtain ⟨k, v⟩ := m
    rw [lookup]
    split
    · rename_i h
      simp [keys, h]
    · rename_i h
      rw [ih]
      simp [keys, Ne.symm h]

/-- Where keys are distinct, each member is found under its key. -/
theorem lookup_of_mem {key : Text} {members : List (Text × Json)} {v : Json}
    (hnodup : (keys members).Nodup) (h : (key, v) ∈ members) : lookup key members = some v := by
  induction members with
  | nil => cases h
  | cons m rest ih =>
    obtain ⟨k, w⟩ := m
    rw [keys, List.map_cons, List.nodup_cons] at hnodup
    rw [lookup]
    rcases List.mem_cons.1 h with h | h
    · cases h
      rw [if_pos rfl]
    · have hkey : key ∈ rest.map Prod.fst := List.mem_map_of_mem h
      have hne : k ≠ key := by
        rintro rfl
        exact hnodup.1 hkey
      rw [if_neg hne]
      exact ih hnodup.2 h

/-- Inserting changes the keys by at most the new one. -/
theorem mem_keys_insert {key k : Text} {value : Json} {members : List (Text × Json)} :
    k ∈ keys (insert key value members) ↔ k = key ∨ k ∈ keys members := by
  induction members with
  | nil => simp [insert, keys]
  | cons m rest ih =>
    obtain ⟨k', v⟩ := m
    simp only [keys] at ih
    rw [insert]
    split
    · rename_i h
      simp [keys, h]
    · simp only [keys, List.map_cons, List.mem_cons, ih]
      tauto

/-- Inserting keeps keys distinct. -/
theorem nodup_keys_insert {key : Text} {value : Json} {members : List (Text × Json)}
    (h : (keys members).Nodup) : (keys (insert key value members)).Nodup := by
  induction members with
  | nil => simp [insert, keys]
  | cons m rest ih =>
    obtain ⟨k, v⟩ := m
    rw [keys, List.map_cons, List.nodup_cons] at h
    rw [insert]
    split
    · exact List.nodup_cons.2 h
    · rename_i hne
      refine List.nodup_cons.2 ⟨fun hmem => ?_, ih h.2⟩
      rcases mem_keys_insert.1 hmem with hk | hk
      · exact hne hk
      · exact h.1 hk

/-- The values after inserting are those before and the new one. -/
theorem mem_of_mem_insert {key : Text} {value : Json} {members : List (Text × Json)}
    {m : Text × Json} (h : m ∈ insert key value members) : m.2 = value ∨ m ∈ members := by
  induction members with
  | nil =>
    rw [insert, List.mem_singleton] at h
    exact Or.inl (congrArg Prod.snd h)
  | cons m' rest ih =>
    obtain ⟨k, v⟩ := m'
    rw [insert] at h
    split at h
    · rcases List.mem_cons.1 h with h | h
      · exact Or.inl (congrArg Prod.snd h)
      · exact Or.inr (List.mem_cons_of_mem _ h)
    · rcases List.mem_cons.1 h with h | h
      · exact Or.inr (h ▸ List.mem_cons_self)
      · exact (ih h).imp_right (List.mem_cons_of_mem _)

/-- A new key is put behind all others. -/
theorem insert_of_not_mem {key : Text} {value : Json} {members : List (Text × Json)}
    (h : key ∉ keys members) : insert key value members = members ++ [(key, value)] := by
  induction members with
  | nil => rfl
  | cons m rest ih =>
    obtain ⟨k, v⟩ := m
    rw [keys, List.map_cons, List.mem_cons, not_or] at h
    rw [insert, if_neg (Ne.symm h.1), ih h.2, List.cons_append]

/-- Members with distinct keys are held as they are. -/
theorem ofMembers_of_nodup {members : List (Text × Json)} (h : (keys members).Nodup) :
    ofMembers members = .obj members := by
  -- generalized over the members that are held already
  have key : ∀ rest done : List (Text × Json), (keys (done ++ rest)).Nodup →
      rest.foldl (fun done m => insert m.1 m.2 done) done = done ++ rest := by
    intro rest
    induction rest with
    | nil => simp
    | cons m rest ih =>
      intro done hnodup
      have hfresh : m.1 ∉ keys done := by
        rw [keys, List.map_append, List.map_cons] at hnodup
        exact fun hmem => (List.nodup_append.1 hnodup).2.2 _ hmem _ List.mem_cons_self rfl
      rw [List.foldl_cons, insert_of_not_mem hfresh, ih (done ++ [m]) (by simpa using hnodup),
        List.append_assoc, List.singleton_append]
  rw [ofMembers, key members [] h, List.nil_append]

/-! ## Distinct keys -/

/-- No object inside a value has two members of one key. -/
def KeysDistinct (j : Json) : Prop :=
  ∀ n ∈ j.nodes, ∀ members, n = .obj members → (keys members).Nodup

theorem keysDistinct_arr {items : List Json} :
    KeysDistinct (.arr items) ↔ ∀ j ∈ items, j.KeysDistinct := by
  rw [KeysDistinct, forall_nodes_arr]
  exact and_iff_right fun _ h => by cases h

theorem keysDistinct_obj {members : List (Text × Json)} :
    KeysDistinct (.obj members) ↔ (keys members).Nodup ∧ ∀ m ∈ members, m.2.KeysDistinct := by
  rw [KeysDistinct, forall_nodes_obj]
  refine and_congr_left fun _ => ⟨fun h => h members rfl, fun h _ hm => ?_⟩
  cases hm
  exact h

/-- A value without items and members has distinct keys. -/
theorem keysDistinct_of_nodes {j : Json} (hnodes : j.nodes = [j])
    (hobj : ∀ members, j ≠ .obj members) : j.KeysDistinct := by
  intro n hn members h
  rw [hnodes, List.mem_singleton] at hn
  exact absurd (hn ▸ h) (hobj members)

/-- Members as an object holds them have distinct keys, whatever was written. -/
theorem keysDistinct_ofMembers {members : List (Text × Json)}
    (h : ∀ m ∈ members, m.2.KeysDistinct) : (ofMembers members).KeysDistinct := by
  have key : ∀ rest done : List (Text × Json),
      (keys done).Nodup ∧ (∀ m ∈ done, m.2.KeysDistinct) → (∀ m ∈ rest, m.2.KeysDistinct) →
      (Json.obj (rest.foldl (fun done m => insert m.1 m.2 done) done)).KeysDistinct := by
    intro rest
    induction rest with
    | nil => exact fun done hdone _ => keysDistinct_obj.2 hdone
    | cons m rest ih =>
      intro done hdone hrest
      rw [List.foldl_cons]
      refine ih _ ⟨nodup_keys_insert hdone.1, fun m' hm' => ?_⟩
        fun m' hm' => hrest m' (List.mem_cons_of_mem _ hm')
      rcases mem_of_mem_insert hm' with hv | hm'
      · rw [hv]
        exact hrest m List.mem_cons_self
      · exact hdone.2 m' hm'
  exact key members [] ⟨List.nodup_nil, fun m hm => absurd hm List.not_mem_nil⟩ h

/-! ## What is read -/

/-- A simple value has no items and no members. -/
theorem keysDistinct_of_simpleValue {t rest : Text} {j : Json}
    (h : simpleValue t = .ok (j, rest)) : j.KeysDistinct := by
  have hscalar : (j = .null ∨ ∃ b, j = .bool b) ∨ ∃ n, j = .num n := by
    unfold simpleValue at h
    split at h
    · cases h
    split at h
    · obtain ⟨r, -, h⟩ := bind_eq_ok_iff.1 h
      cases h
      exact Or.inl (Or.inl rfl)
    split at h
    · obtain ⟨r, -, h⟩ := bind_eq_ok_iff.1 h
      cases h
      exact Or.inl (Or.inr ⟨true, rfl⟩)
    split at h
    · obtain ⟨r, -, h⟩ := bind_eq_ok_iff.1 h
      cases h
      exact Or.inl (Or.inr ⟨false, rfl⟩)
    split at h
    · obtain ⟨r, -, h⟩ := bind_eq_ok_iff.1 h
      cases h
      exact Or.inr ⟨r.1, rfl⟩
    split at h
    · obtain ⟨r, -, h⟩ := bind_eq_ok_iff.1 h
      cases h
      exact Or.inr ⟨r.1, rfl⟩
    · cases h
  rcases hscalar with (rfl | ⟨b, rfl⟩) | ⟨n, rfl⟩
  all_goals exact keysDistinct_of_nodes rfl (by simp)

/-- What succeeds inside a text succeeds. -/
theorem within_eq_ok_iff {α : Type} {text : Text} {r : Reading α} {a : α} :
    within text r = .ok a ↔ r = .ok a := by
  cases r <;> simp [within]

/-- Nothing is changed by looking for the end. -/
theorem eq_of_finish {α : Type} {a b : α} {rest : Text} (h : finish a rest = .ok b) : a = b := by
  rw [finish] at h
  split at h
  · exact Except.ok.inj h
  · cases h

/-- What the four readers give with some fuel has distinct keys.  Each of them spends fuel before it
calls the others, so the four facts are proved together. -/
structure ReadsDistinct (unwraps : Bool) (fuel : Nat) : Prop where
  value : ∀ {room t j rest}, value unwraps fuel room t = .ok (j, rest) → j.KeysDistinct
  object : ∀ {room t j rest}, object unwraps fuel room t = .ok (j, rest) → j.KeysDistinct
  members : ∀ {room first t ms rest}, members unwraps fuel room first t = .ok (ms, rest) →
    ∀ m ∈ ms, m.2.KeysDistinct
  items : ∀ {room first t js rest}, items unwraps fuel room first t = .ok (js, rest) →
    ∀ j ∈ js, j.KeysDistinct

/-- One more unit of fuel: reading a value. -/
theorem ReadsDistinct.value_succ {unwraps : Bool} {fuel : Nat} (ih : ReadsDistinct unwraps fuel)
    {room : Nat} {t rest : Text} {j : Json}
    (h : Json.value unwraps (fuel + 1) room t = .ok (j, rest)) : j.KeysDistinct := by
  unfold Json.value at h
  split at h
  · obtain ⟨r, -, h⟩ := bind_eq_ok_iff.1 h
    cases h
    exact keysDistinct_of_nodes rfl (by simp)
  · split at h
    · cases h
    · exact ih.object h
  · split at h
    · cases h
    · obtain ⟨r, hitems, h⟩ := bind_eq_ok_iff.1 h
      cases h
      exact keysDistinct_arr.2 (ih.items hitems)
  · exact keysDistinct_of_simpleValue h

/-- One more unit of fuel: reading an object. -/
theorem ReadsDistinct.object_succ {unwraps : Bool} {fuel : Nat} (ih : ReadsDistinct unwraps fuel)
    {room : Nat} {t rest : Text} {j : Json}
    (h : Json.object unwraps (fuel + 1) room t = .ok (j, rest)) : j.KeysDistinct := by
  unfold Json.object at h
  obtain ⟨⟨more, t₁⟩, -, h⟩ := bind_eq_ok_iff.1 h
  simp only at h
  split at h
  · obtain ⟨⟨key, t₂⟩, -, h⟩ := bind_eq_ok_iff.1 h
    obtain ⟨⟨_, t₃⟩, -, h⟩ := bind_eq_ok_iff.1 h
    simp only at h
    split at h
    · -- a value that is written as text is read like a document
      obtain ⟨⟨text, t₄⟩, -, h⟩ := bind_eq_ok_iff.1 h
      obtain ⟨⟨inner, tail⟩, hinner, h⟩ := bind_eq_ok_iff.1 h
      obtain ⟨finished, hfinish, h⟩ := bind_eq_ok_iff.1 h
      obtain ⟨⟨_, t₅⟩, -, h⟩ := bind_eq_ok_iff.1 h
      cases h
      rw [← eq_of_finish (within_eq_ok_iff.1 hfinish)]
      exact ih.value (within_eq_ok_iff.1 hinner)
    · obtain ⟨⟨v, t₄⟩, hvalue, h⟩ := bind_eq_ok_iff.1 h
      obtain ⟨⟨ms, t₅⟩, hmembers, h⟩ := bind_eq_ok_iff.1 h
      cases h
      refine keysDistinct_ofMembers fun m hm => ?_
      rcases List.mem_cons.1 hm with rfl | hm
      · exact ih.value hvalue
      · exact ih.members hmembers m hm
  · cases h
    exact keysDistinct_obj.2 ⟨List.nodup_nil, fun m hm => absurd hm List.not_mem_nil⟩

/-- Whatever fuel there is, what is read has distinct keys. -/
theorem readsDistinct (unwraps : Bool) (fuel : Nat) : ReadsDistinct unwraps fuel := by
  induction fuel with
  | zero =>
    constructor
    · intro room t j rest h
      rw [Json.value] at h
      cases h
    · intro room t j rest h
      rw [Json.object] at h
      cases h
    · intro room first t ms rest h
      rw [Json.members] at h
      cases h
    · intro room first t js rest h
      rw [Json.items] at h
      cases h
  | succ fuel ih =>
    refine ⟨ih.value_succ, ih.object_succ, ?_, ?_⟩
    · intro room first t ms rest h
      unfold Json.members at h
      obtain ⟨⟨more, t₁⟩, -, h⟩ := bind_eq_ok_iff.1 h
      simp only at h
      split at h
      · obtain ⟨⟨key, t₂⟩, -, h⟩ := bind_eq_ok_iff.1 h
        obtain ⟨⟨_, t₃⟩, -, h⟩ := bind_eq_ok_iff.1 h
        obtain ⟨⟨v, t₄⟩, hvalue, h⟩ := bind_eq_ok_iff.1 h
        obtain ⟨⟨more, t₅⟩, hmembers, h⟩ := bind_eq_ok_iff.1 h
        cases h
        exact List.forall_mem_cons.2 ⟨ih.value hvalue, ih.members hmembers⟩
      · cases h
        exact fun m hm => absurd hm List.not_mem_nil
    · intro room first t js rest h
      unfold Json.items at h
      obtain ⟨⟨more, t₁⟩, -, h⟩ := bind_eq_ok_iff.1 h
      simp only at h
      split at h
      · obtain ⟨⟨j, t₂⟩, hvalue, h⟩ := bind_eq_ok_iff.1 h
        obtain ⟨⟨more, t₃⟩, hitems, h⟩ := bind_eq_ok_iff.1 h
        cases h
        exact List.forall_mem_cons.2 ⟨ih.value hvalue, ih.items hitems⟩
      · cases h
        exact fun j hj => absurd hj List.not_mem_nil

/-- A document that was read has distinct keys. -/
theorem keysDistinct_of_parse {text : Text} {j : Json} (h : parse text = .ok j) :
    j.KeysDistinct := by
  simp only [parse] at h
  split at h
  · rename_i j' hread
    cases h
    obtain ⟨⟨v, rest⟩, hvalue, hfinish⟩ := bind_eq_ok_iff.1 hread
    rw [← eq_of_finish hfinish]
    exact (readsDistinct true _).value hvalue
  · cases h

end Rampart.Json
