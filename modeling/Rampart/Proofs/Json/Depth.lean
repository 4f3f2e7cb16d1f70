import Mathlib
import Rampart.Proofs.Json.RoundTrip

/-!
# The depth of a document

The depth of a value is computed from the depths of the values inside it.  It is the greatest number
of arrays and objects that one comes through on a way from the value to one of its nodes.

* `Json.children` : the values directly inside a value;
* `Json.depth_le_depth_of_children` : how depths are compared, for arrays and objects alike;
* `Json.PathTo` : the ways from a value to its nodes;
* `Json.isGreatest_depth` : the depth is the greatest number of arrays and objects on such a way.
-/

namespace Rampart.Json

/-! ## What stands directly inside a value -/

/-- Whether a value is an array or an object. -/
def isContainer : Json → Bool
  | .arr _ | .obj _ => true
  | _ => false

/-- The values directly inside a value: the items of an array, or what the members of an object
hold. -/
def children : Json → List Json
  | .arr items => items
  | .obj members => members.map Prod.snd
  | _ => []

/-- Only arrays and objects have something inside. -/
theorem isContainer_of_mem_children {v w : Json} (h : w ∈ v.children) : v.isContainer = true := by
  cases v with
  | arr items => rfl
  | obj members => rfl
  | _ => cases h

/-- The nodes of a value are itself and the nodes of what is inside it. -/
theorem nodes_eq_cons_children (v : Json) : v.nodes = v :: v.children.flatMap nodes := by
  cases v with
  | obj members => rw [nodes_obj, children, List.flatMap_map]
  | arr items => rw [nodes_arr, children]
  | _ => rfl

/-- Induction on a value from what stands directly inside it. -/
theorem induction_children {P : Json → Prop} (step : ∀ v, (∀ w ∈ v.children, P w) → P v)
    (v : Json) : P v := by
  induction v using Json.induction with
  | arr items ih => exact step _ ih
  | obj members ih =>
    apply step
    intro w hw
    obtain ⟨m, hm, rfl⟩ := List.mem_map.1 hw
    exact ih m hm
  | _ => exact step _ fun w hw => absurd hw List.not_mem_nil

/-! ## Depths -/

/-- The keys of members have no bearing on their depth. -/
theorem depthMembers_eq_depthItems (members : List (Text × Json)) :
    depthMembers members = depthItems (members.map Prod.snd) := by
  induction members with
  | nil => rfl
  | cons m rest ih => rw [depthMembers, List.map_cons, depthItems, ih]

/-- Arrays and objects are one deeper than what is inside them. -/
theorem depth_of_isContainer {v : Json} (h : v.isContainer = true) :
    v.depth = 1 + depthItems v.children := by
  cases v with
  | arr items => rw [depth, children]
  | obj members => rw [depth, depthMembers_eq_depthItems, children]
  | _ => cases h

theorem depth_of_not_isContainer {v : Json} (h : v.isContainer = false) : v.depth = 0 := by
  cases v with
  | arr items => cases h
  | obj members => cases h
  | _ => rfl

/-- Items are at most so deep if each of them is. -/
theorem depthItems_le_iff {items : List Json} {n : Nat} :
    depthItems items ≤ n ↔ ∀ j ∈ items, j.depth ≤ n := by
  induction items with
  | nil => simp [depthItems]
  | cons j rest ih => rw [depthItems, max_le_iff, ih, List.forall_mem_cons]

/-- Items have no depth, or it is that of one of them. -/
theorem depthItems_eq_zero_or (items : List Json) :
    depthItems items = 0 ∨ ∃ j ∈ items, j.depth = depthItems items := by
  induction items with
  | nil => exact Or.inl rfl
  | cons j rest ih =>
    rw [depthItems]
    rcases max_choice j.depth (depthItems rest) with hmax | hmax
    · exact Or.inr ⟨j, List.mem_cons_self, hmax.symm⟩
    · rw [hmax]
      refine ih.imp_right ?_
      rintro ⟨i, hi, hdepth⟩
      exact ⟨i, List.mem_cons_of_mem _ hi, hdepth⟩

/-- What is inside a value is less deep. -/
theorem depth_lt_of_mem_children {v w : Json} (h : w ∈ v.children) : w.depth < v.depth := by
  have hdepth : w.depth ≤ depthItems v.children := depth_le_depthItems h
  rw [depth_of_isContainer (isContainer_of_mem_children h)]
  omega

/-- A value is no deeper than an array or object with something as deep inside it for all that the
value has inside and that has a depth. -/
theorem depth_le_depth_of_children {v w : Json} (hw : w.isContainer = true)
    (h : ∀ x ∈ v.children, x.depth = 0 ∨ ∃ y ∈ w.children, x.depth ≤ y.depth) :
    v.depth ≤ w.depth := by
  cases hv : v.isContainer with
  | false =>
    rw [depth_of_not_isContainer hv]
    exact Nat.zero_le _
  | true =>
    rw [depth_of_isContainer hv, depth_of_isContainer hw]
    apply Nat.add_le_add_left
    rw [depthItems_le_iff]
    intro x hx
    rcases h x hx with hzero | ⟨y, hy, hxy⟩
    · rw [hzero]
      exact Nat.zero_le _
    · exact hxy.trans (depth_le_depthItems hy)

/-! ## Ways to the nodes -/

/-- The way from a value to one of its nodes, as the list of all values on it from the first to the
last, each of them directly inside the one before. -/
inductive PathTo : (v n : Json) → (path : List Json) → Prop
  | here (v : Json) : PathTo v v [v]
  | into {v w n : Json} {path : List Json} (hw : w ∈ v.children) (onward : PathTo w n path) :
      PathTo v n (v :: path)

/-- A way leads to a node. -/
theorem PathTo.mem_nodes {v n : Json} {path : List Json} (h : PathTo v n path) :
    n ∈ v.nodes := by
  induction h with
  | here v =>
    rw [nodes_eq_cons_children]
    exact List.mem_cons_self
  | into hw _ ih =>
    rw [nodes_eq_cons_children]
    exact List.mem_cons_of_mem _ (List.mem_flatMap.2 ⟨_, hw, ih⟩)

/-- No way comes through more arrays and objects than the value is deep. -/
theorem PathTo.countP_le_depth {v n : Json} {path : List Json} (h : PathTo v n path) :
    path.countP isContainer ≤ v.depth := by
  induction h with
  | here v =>
    rw [List.countP_singleton]
    split
    · rename_i hv
      rw [depth_of_isContainer hv]
      omega
    · exact Nat.zero_le _
  | into hw _ ih =>
    have hlt := depth_lt_of_mem_children hw
    rw [List.countP_cons_of_pos (isContainer_of_mem_children hw)]
    omega

/-- Some way comes through as many arrays and objects as the value is deep. -/
theorem exists_pathTo_countP_eq_depth (v : Json) :
    ∃ n path, PathTo v n path ∧ path.countP isContainer = v.depth := by
  induction v using induction_children with
  | step v ih =>
    cases hv : v.isContainer with
    | false =>
      refine ⟨v, [v], .here v, ?_⟩
      rw [List.countP_singleton, hv, depth_of_not_isContainer hv]
      rfl
    | true =>
      rw [depth_of_isContainer hv]
      rcases depthItems_eq_zero_or v.children with hzero | ⟨w, hw, hdepth⟩
      · -- nothing inside is an array or an object, so the way ends where it starts
        refine ⟨v, [v], .here v, ?_⟩
        rw [List.countP_singleton, hv, hzero]
        rfl
      · obtain ⟨n, path, hpath, hcount⟩ := ih w hw
        refine ⟨n, v :: path, .into hw hpath, ?_⟩
        rw [List.countP_cons_of_pos hv, hcount, hdepth, Nat.add_comm]

/-- The depth of a value is the greatest number of arrays and objects on a way from it to one of its
nodes. -/
theorem isGreatest_depth (v : Json) :
    IsGreatest {k | ∃ n ∈ v.nodes, ∃ path, PathTo v n path ∧ path.countP isContainer = k}
      v.depth := by
  constructor
  · obtain ⟨n, path, hpath, hcount⟩ := exists_pathTo_countP_eq_depth v
    exact ⟨n, hpath.mem_nodes, path, hpath, hcount⟩
  · rintro k ⟨n, -, path, hpath, rfl⟩
    exact hpath.countP_le_depth

end Rampart.Json
