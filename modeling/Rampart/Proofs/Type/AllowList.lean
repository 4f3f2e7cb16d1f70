import Mathlib
import Rampart.Type.AllowList

/-!
# What an allow-list finds

An allow-list is filled from a list of candidates.  What it finds under a key is told by that list
alone: the last candidate with the key.

* `AllowList.find?_of_build` : the trusted type with a key;
* `AllowList.find?_eq_none_iff_of_build` : the keys that are not trusted.
-/

namespace Rampart.Exploitable

/-- All fragments are dotted names. -/
theorem dot_mem_of_mem_fragments : ∀ f ∈ fragments, '.' ∈ f := by decide +kernel

/-- An identity without dots holds no fragment. -/
theorem find?_of_dot_not_mem {identity : Text} (h : '.' ∉ identity) : find? identity = none := by
  rw [find?, List.find?_eq_none]
  intro f hf hhas
  have hpart : f <:+: identity := (Text.has_iff identity f).1 hhas
  exact h (hpart.mem (dot_mem_of_mem_fragments f hf))

end Rampart.Exploitable

namespace Rampart.AllowList

variable {C : Catalogue}

/-- An entry is found under its own key. -/
theorem find?_insertEntry_self (d : Descriptor C) (entries : List (TypeName.Key × Descriptor C)) :
    ((insertEntry d entries).find? fun e => e.1 = d.key).map (·.2) = some d := by
  induction entries with
  | nil => simp [insertEntry]
  | cons e rest ih =>
    obtain ⟨k, e⟩ := e
    rw [insertEntry]
    split
    · rename_i h
      simp [h]
    · rename_i h
      rw [List.find?_cons_of_neg (by simpa using h)]
      exact ih

/-- Entries with other keys stay as they are. -/
theorem find?_insertEntry_of_ne {d : Descriptor C} {key : TypeName.Key} (hne : d.key ≠ key)
    (entries : List (TypeName.Key × Descriptor C)) :
    (insertEntry d entries).find? (fun e => e.1 = key) = entries.find? fun e => e.1 = key := by
  induction entries with
  | nil => simp [insertEntry, hne]
  | cons e rest ih =>
    obtain ⟨k, e⟩ := e
    rw [insertEntry]
    split
    · rename_i h
      simp [h, hne]
    · rw [List.find?_cons, List.find?_cons, ih]

/-- With one more candidate, that one is found under its key and others as before. -/
theorem find?_add (l : AllowList C) (d : Descriptor C) (key : TypeName.Key) :
    (l.add d).find? key = if d.key = key then some d else l.find? key := by
  split
  · rename_i h
    subst h
    exact find?_insertEntry_self d l.entries
  · rename_i h
    rw [find?, add, find?_insertEntry_of_ne h]
    rfl

/-- With more candidates, the last of them with the key is found. -/
theorem find?_foldl_add (cs : List (Descriptor C)) (l : AllowList C) (key : TypeName.Key) :
    (cs.foldl add l).find? key = (cs.reverse.find? fun d => d.key = key).or (l.find? key) := by
  induction cs generalizing l with
  | nil => rfl
  | cons d cs ih =>
    rw [List.foldl_cons, ih, find?_add, List.reverse_cons, List.find?_append, Option.or_assoc]
    congr 1
    by_cases h : d.key = key <;> simp [h]

/-- What was built is filled from all candidates in turn. -/
theorem eq_foldl_of_build {cs : List (Descriptor C)} {l : AllowList C}
    (h : build (some cs) = .ok l) : l = cs.foldl add ⟨[], []⟩ := by
  cases cs with
  | nil => cases h
  | cons d cs =>
    unfold build at h
    simp only at h
    split at h
    · cases h
    · exact (Except.ok.inj h).symm

/-- Candidates none of which is exploitable make up an allow-list. -/
theorem build_of_not_exploitable {cs : List (Descriptor C)} (hne : cs ≠ [])
    (h : ∀ d ∈ cs, Exploitable.find? d.identity = none) :
    build (some cs) = .ok (cs.foldl add ⟨[], []⟩) := by
  have hfirst : firstExploitable cs = none := by
    rw [firstExploitable, List.findSome?_eq_none_iff]
    intro d hd
    rw [h d hd, Option.map_none]
  unfold build
  split
  · rename_i heq
    cases heq
  · rename_i heq
    exact absurd (Option.some.inj heq) hne
  · rename_i heq
    obtain rfl := Option.some.inj heq
    rw [hfirst]

/-- What is found under a key is the last candidate that has it. -/
theorem find?_of_build {cs : List (Descriptor C)} {l : AllowList C} (h : build (some cs) = .ok l)
    (key : TypeName.Key) : l.find? key = cs.reverse.find? fun d => d.key = key := by
  rw [eq_foldl_of_build h, find?_foldl_add]
  exact Option.or_none

/-- A key is trusted exactly when it is that of some candidate. -/
theorem find?_eq_none_iff_of_build {cs : List (Descriptor C)} {l : AllowList C}
    (h : build (some cs) = .ok l) (key : TypeName.Key) :
    l.find? key = none ↔ ∀ d ∈ cs, d.key ≠ key := by
  rw [find?_of_build h, List.find?_eq_none]
  simp

end Rampart.AllowList
