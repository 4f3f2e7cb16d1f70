import Mathlib
import Rampart.Proofs.Path.Combining

/-!
# Normalizing early or late

Combining normalizes the base, joins the segments to it one after the other and normalizes once
more.  The first time makes no difference: a walk along the names of a path goes on from the place
where it is, whatever way led there, and a `..` at the root is lost in both orders.

* `Lexical.Walk` : walks through the tree, one name after the other;
* `Lexical.walk_iff_foldl_step` : a normalized path is the place where the walk ends;
* `Lexical.normalize_join_congr` : joining respects paths that normalize alike;
* `normalize_early_or_late` : all of it for any number of joins.
-/

namespace Rampart.Path

namespace Lexical

/-! ## Walks -/

/-- A walk from a place along names to another place.  A place is told by the names that lead to it
from the root: a name leads below it, and `..` back to the place above, or nowhere at the root. -/
inductive Walk : (here names there : List Text) → Prop
  | arrive (here : List Text) : Walk here [] here
  | enter {here names there : List Text} {name : Text} (hname : name ≠ ['.', '.'])
      (onward : Walk (here ++ [name]) names there) : Walk here (name :: names) there
  | leave {here names there : List Text} (name : Text) (onward : Walk here names there) :
      Walk (here ++ [name]) (['.', '.'] :: names) there
  | stay {names there : List Text} (onward : Walk [] names there) :
      Walk [] (['.', '.'] :: names) there

theorem step_of_ne {name : Text} (h : name ≠ ['.', '.']) (here : List Text) :
    step here name = here ++ [name] :=
  if_neg h

theorem step_climb (here : List Text) : step here ['.', '.'] = here.dropLast := if_pos rfl

/-- From every place there is a walk along given names. -/
theorem walk_foldl_step (here names : List Text) : Walk here names (names.foldl step here) := by
  induction names generalizing here with
  | nil => exact .arrive here
  | cons name names ih =>
    rw [List.foldl_cons]
    by_cases hname : name = ['.', '.']
    · subst hname
      rw [step_climb]
      -- there is a place above, unless this one is the root
      rcases List.eq_nil_or_concat' here with rfl | ⟨above, last, rfl⟩
      · exact .stay (ih [])
      · rw [List.dropLast_concat]
        exact .leave last (ih above)
    · rw [step_of_ne hname]
      exact .enter hname (ih (here ++ [name]))

/-- There is one place only that a walk along given names ends at. -/
theorem Walk.eq_foldl_step {here names there : List Text} (h : Walk here names there) :
    there = names.foldl step here := by
  induction h with
  | arrive here => rfl
  | enter hname _ ih => rw [List.foldl_cons, step_of_ne hname, ih]
  | leave name _ ih => rw [List.foldl_cons, step_climb, List.dropLast_concat, ih]
  | stay _ ih => rw [List.foldl_cons, step_climb, List.dropLast_nil, ih]

theorem walk_iff_foldl_step {here names there : List Text} :
    Walk here names there ↔ there = names.foldl step here := by
  refine ⟨Walk.eq_foldl_step, ?_⟩
  rintro rfl
  exact walk_foldl_step here names

/-- A walk goes down by no more than one place for each name. -/
theorem Walk.length_le {here names there : List Text} (h : Walk here names there) :
    there.length ≤ here.length + names.length := by
  induction h with
  | arrive here => exact Nat.le_add_right _ _
  | enter _ _ ih =>
    rw [List.length_append, List.length_singleton] at ih
    rw [List.length_cons]
    omega
  | leave name _ ih =>
    rw [List.length_append, List.length_singleton, List.length_cons]
    omega
  | stay _ ih =>
    rw [List.length_cons]
    omega

/-! ## Normalizing and joining -/

/-- Normalizing once is enough. -/
theorem normalize_normalize (p : Lexical) : p.normalize.normalize = p.normalize :=
  normalize_of_noClimb (climb_not_mem_normalize p)

/-- Normalizing adds no components. -/
theorem depth_normalize_le (p : Lexical) : p.normalize.depth ≤ p.depth := by
  have h := (walk_foldl_step [] p.components).length_le
  rw [List.length_nil, Nat.zero_add] at h
  exact h

/-- A walk along further names starts where the walk along the first ones ends. -/
theorem normalize_append (root : Root) (names more : List Text) :
    normalize ⟨root, names ++ more⟩ = ⟨root, more.foldl step (names.foldl step [])⟩ := by
  rw [normalize, List.foldl_append]

/-- Joining respects paths that normalize alike. -/
theorem normalize_join_congr {p q : Lexical} (h : p.normalize = q.normalize) (tail : Lexical) :
    (p.join tail).normalize = (q.join tail).normalize := by
  obtain ⟨root, names⟩ := p
  obtain ⟨root', names'⟩ := q
  obtain ⟨rfl, hplace⟩ := Lexical.mk.inj h
  obtain ⟨troot, more⟩ := tail
  cases troot with
  | relative =>
    show normalize ⟨root, names ++ more⟩ = normalize ⟨root, names' ++ more⟩
    rw [normalize_append, normalize_append, hplace]
  -- of the first path, nothing is left but its volume, if it has one
  | separator => cases root <;> rfl
  | drive letter => rfl
  | share server volume => rfl

/-- Paths that normalize alike do so after any number of joins. -/
theorem normalize_foldl_join_congr {p q : Lexical} (h : p.normalize = q.normalize)
    (tails : List Lexical) :
    (tails.foldl join p).normalize = (tails.foldl join q).normalize := by
  induction tails generalizing p q with
  | nil => exact h
  | cons tail tails ih => exact ih (normalize_join_congr h tail)

end Lexical

/-- Segments are read and joined one after the other. -/
theorem joinAll_eq_map_foldl (s : Style) (p : Lexical) (segments : List Text) :
    joinAll s p segments
      = (segments.mapM (Lexical.parse s)).map fun tails => tails.foldl Lexical.join p := by
  induction segments generalizing p with
  | nil => rfl
  | cons segment rest ih =>
    rw [joinAll, List.mapM_cons]
    cases Lexical.parse s segment with
    | error r => rfl
    | ok tail =>
      show joinAll s (p.join tail) rest = _
      rw [ih]
      cases rest.mapM (Lexical.parse s) with
      | error r => rfl
      | ok tails => rfl

/-- **Normalizing early or late is the same.**  A path may be normalized before other paths, of
whatever roots, are joined to it one after the other, or only afterwards; so may the base that
segments are read for.  A normalized path stays as it is.  Normalizing keeps the root, leaves no
`..`, adds no components, and leads to the place that a walk from the root along the components
ends at. -/
theorem normalize_early_or_late (p : Lexical) :
    (∀ tails : List Lexical,
      (tails.foldl Lexical.join p).normalize = (tails.foldl Lexical.join p.normalize).normalize) ∧
    (∀ s segments, (joinAll s p segments).map Lexical.normalize
      = (joinAll s p.normalize segments).map Lexical.normalize) ∧
    p.normalize.normalize = p.normalize ∧
    p.normalize.root = p.root ∧
    ['.', '.'] ∉ p.normalize.components ∧
    p.normalize.depth ≤ p.depth ∧
    ∀ there, Lexical.Walk [] p.components there ↔ p.normalize = ⟨p.root, there⟩ := by
  have hjoin : ∀ tails : List Lexical,
      (tails.foldl Lexical.join p).normalize
        = (tails.foldl Lexical.join p.normalize).normalize :=
    Lexical.normalize_foldl_join_congr (Lexical.normalize_normalize p).symm
  refine ⟨hjoin, fun s segments => ?_, Lexical.normalize_normalize p, rfl,
    Lexical.climb_not_mem_normalize p, Lexical.depth_normalize_le p, fun there => ?_⟩
  · rw [joinAll_eq_map_foldl, joinAll_eq_map_foldl]
    cases segments.mapM (Lexical.parse s) with
    | error r => rfl
    | ok tails => exact congrArg Except.ok (hjoin tails)
  · rw [Lexical.walk_iff_foldl_step, Lexical.normalize, Lexical.mk.injEq, eq_comm]
    exact (and_iff_right rfl).symm

-- What is joined may not be normalized before: it would lose the `..` in front.
example :
    (Lexical.join ⟨.separator, [['a']]⟩ ⟨.relative, [['.', '.'], ['b']]⟩).normalize
      ≠ (Lexical.join ⟨.separator, [['a']]⟩
          (Lexical.normalize ⟨.relative, [['.', '.'], ['b']]⟩)).normalize := by
  decide

end Rampart.Path
