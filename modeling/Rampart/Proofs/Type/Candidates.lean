import Mathlib
import Rampart.Proofs.Type.AllowList

/-!
# An allow-list is its candidates

Two tables are filled from one list of candidates, with opposite rules for what is there already:
under a key the last candidate counts, and for a type the first.  Here all that an allow-list says
is told by the list of candidates alone.

* `AllowList.build_eq_ok_iff`, `AllowList.build_of_exploitable` : the outcome of a build;
* `AllowList.resolve_eq_ok_iff_of_build` : the type under a key;
* `AllowList.describe_of_build` : the key of a type;
* `AllowList.size_of_build`, `AllowList.mem_types_iff_of_build` : how many there are, and which;
* `AllowList.refines_candidates` : all of this together;
* `AllowList.resolve_describe` : what is found under the key that a type is written under.
-/

namespace Rampart

/-! ## First and last -/

section

variable {α : Type} {p : α → Bool} {P : α → Prop} {as : List α} {a : α}

/-- `a` is the first of `as` with property `P`. -/
def IsFirst (P : α → Prop) (as : List α) (a : α) : Prop :=
  ∃ before after, as = before ++ a :: after ∧ P a ∧ ∀ b ∈ before, ¬ P b

/-- `a` is the last of `as` with property `P`. -/
def IsLast (P : α → Prop) (as : List α) (a : α) : Prop :=
  ∃ before after, as = before ++ a :: after ∧ P a ∧ ∀ b ∈ after, ¬ P b

theorem IsFirst.mem (h : IsFirst P as a) : a ∈ as := by
  obtain ⟨before, after, rfl, -⟩ := h
  exact List.mem_append_right _ List.mem_cons_self

theorem IsFirst.holds (h : IsFirst P as a) : P a := by
  obtain ⟨-, -, -, ha, -⟩ := h
  exact ha

theorem IsLast.mem (h : IsLast P as a) : a ∈ as := by
  obtain ⟨before, after, rfl, -⟩ := h
  exact List.mem_append_right _ List.mem_cons_self

theorem IsLast.holds (h : IsLast P as a) : P a := by
  obtain ⟨-, -, -, ha, -⟩ := h
  exact ha

/-- Whatever has the property, the last that has it is no earlier. -/
theorem IsLast.eq_or_mem (h : IsLast P as a) {before after : List α} {b : α}
    (has : as = before ++ b :: after) (hb : P b) : a = b ∨ a ∈ after := by
  obtain ⟨front, back, rfl, -, hback⟩ := h
  rcases List.append_eq_append_iff.1 has with ⟨mid, rfl, hmid⟩ | ⟨mid, rfl, hmid⟩
  · -- `b` would have to stand behind `a` unless it is `a` itself
    cases mid with
    | nil =>
      obtain ⟨rfl, -⟩ := List.cons.inj hmid
      exact Or.inl rfl
    | cons x mid =>
      obtain ⟨-, rfl⟩ := List.cons.inj hmid
      exact absurd hb (hback b (List.mem_append_right _ List.mem_cons_self))
  · cases mid with
    | nil =>
      obtain ⟨rfl, -⟩ := List.cons.inj hmid
      exact Or.inl rfl
    | cons x mid =>
      obtain ⟨-, rfl⟩ := List.cons.inj hmid
      exact Or.inr (List.mem_append_right _ List.mem_cons_self)

/-- The last is the first from behind. -/
theorem isFirst_reverse_iff : IsFirst P as.reverse a ↔ IsLast P as a := by
  constructor
  · rintro ⟨before, after, has, ha, hbefore⟩
    refine ⟨after.reverse, before.reverse, ?_, ha, fun b hb => ?_⟩
    · rw [← List.reverse_reverse as, has]
      simp
    · exact hbefore b (List.mem_reverse.1 hb)
  · rintro ⟨before, after, rfl, ha, hafter⟩
    refine ⟨after.reverse, before.reverse, by simp, ha, fun b hb => ?_⟩
    exact hafter b (List.mem_reverse.1 hb)

/-- A search from the front finds the first. -/
theorem find?_eq_some_iff_isFirst (hp : ∀ b, p b = true ↔ P b) :
    as.find? p = some a ↔ IsFirst P as a := by
  rw [List.find?_eq_some_iff_append]
  constructor
  · rintro ⟨ha, before, after, has, hbefore⟩
    refine ⟨before, after, has, (hp a).1 ha, fun b hb hPb => ?_⟩
    have hpb : p b = true := (hp b).2 hPb
    have hnot := hbefore b hb
    rw [hpb] at hnot
    cases hnot
  · rintro ⟨before, after, has, ha, hbefore⟩
    refine ⟨(hp a).2 ha, before, after, has, fun b hb => ?_⟩
    have hpb : ¬ p b = true := fun hpb => hbefore b hb ((hp b).1 hpb)
    simpa using hpb

/-- A search from the back finds the last. -/
theorem find?_reverse_eq_some_iff_isLast (hp : ∀ b, p b = true ↔ P b) :
    as.reverse.find? p = some a ↔ IsLast P as a := by
  rw [find?_eq_some_iff_isFirst hp, isFirst_reverse_iff]

end

/-! ## Exploitable identities -/

namespace Exploitable

/-- An identity is dangerous if some fragment is a part of it. -/
def Dangerous (identity : Text) : Prop := ∃ f ∈ fragments, f <:+: identity

/-- What is found is the first fragment that is a part of the identity. -/
theorem find?_eq_some_iff {identity f : Text} :
    find? identity = some f ↔ IsFirst (· <:+: identity) fragments f :=
  find?_eq_some_iff_isFirst (Text.has_iff identity)

/-- Nothing is found exactly in the identities that are not dangerous. -/
theorem find?_eq_none_iff {identity : Text} : find? identity = none ↔ ¬ Dangerous identity := by
  rw [find?, List.find?_eq_none, Dangerous]
  simp [Text.has_iff]

end Exploitable

namespace AllowList

open Exploitable (Dangerous)

variable {C : Catalogue} {cs : List (Descriptor C)} {l : AllowList C}

/-! ## The outcome of a build -/

/-- None is exploitable exactly if no identity is dangerous. -/
theorem firstExploitable_eq_none_iff :
    firstExploitable cs = none ↔ ∀ d ∈ cs, ¬ Dangerous d.identity := by
  rw [firstExploitable, List.findSome?_eq_none_iff]
  refine forall₂_congr fun d _ => ?_
  rw [Option.map_eq_none_iff, Exploitable.find?_eq_none_iff]

/-- What is found is the first candidate whose identity is dangerous, with the first fragment in
it. -/
theorem exists_of_firstExploitable {identity f : Text}
    (h : firstExploitable cs = some (identity, f)) :
    ∃ d, IsFirst (fun e => Dangerous e.identity) cs d ∧ d.identity = identity ∧
      IsFirst (· <:+: identity) Exploitable.fragments f := by
  rw [firstExploitable, List.findSome?_eq_some_iff] at h
  obtain ⟨before, d, after, hcs, hd, hbefore⟩ := h
  obtain ⟨f', hf', heq⟩ := Option.map_eq_some_iff.1 hd
  cases heq
  have hfirst : IsFirst (· <:+: d.identity) Exploitable.fragments f :=
    Exploitable.find?_eq_some_iff.1 hf'
  have hdangerous : Dangerous d.identity := ⟨f, hfirst.mem, hfirst.holds⟩
  refine ⟨d, ⟨before, after, hcs, hdangerous, fun e he => ?_⟩, rfl, hfirst⟩
  have hnone := hbefore e he
  rw [Option.map_eq_none_iff] at hnone
  exact Exploitable.find?_eq_none_iff.1 hnone

/-- A build from candidates of which one is exploitable fails. -/
theorem build_of_firstExploitable {identity f : Text}
    (h : firstExploitable cs = some (identity, f)) :
    build (some cs) = .error (.exploitable identity f) := by
  cases cs with
  | nil => cases h
  | cons d rest => simp only [build, h]

/-- A build succeeds when there are candidates and none of them is dangerous. -/
theorem build_eq_ok_iff :
    build (some cs) = .ok l ↔
      cs ≠ [] ∧ (∀ d ∈ cs, ¬ Dangerous d.identity) ∧ l = cs.foldl add ⟨[], []⟩ := by
  constructor
  · intro h
    have hne : cs ≠ [] := by
      rintro rfl
      cases h
    have hnone : firstExploitable cs = none := by
      cases hfirst : firstExploitable cs with
      | none => rfl
      | some found =>
        rw [build_of_firstExploitable hfirst] at h
        cases h
    exact ⟨hne, firstExploitable_eq_none_iff.1 hnone, eq_foldl_of_build h⟩
  · rintro ⟨hne, hharmless, rfl⟩
    refine build_of_not_exploitable hne fun d hd => ?_
    exact Exploitable.find?_eq_none_iff.2 (hharmless d hd)

/-- With a dangerous candidate a build fails, and names the first such candidate and the first
fragment in its identity. -/
theorem build_of_exploitable (h : ∃ d ∈ cs, Dangerous d.identity) :
    ∃ d f, IsFirst (fun e => Dangerous e.identity) cs d ∧
      IsFirst (· <:+: d.identity) Exploitable.fragments f ∧
      build (some cs) = .error (.exploitable d.identity f) := by
  obtain ⟨d₀, hd₀, hdangerous⟩ := h
  cases hfirst : firstExploitable cs with
  | none => exact absurd hdangerous (firstExploitable_eq_none_iff.1 hfirst d₀ hd₀)
  | some found =>
    obtain ⟨identity, f⟩ := found
    obtain ⟨d, hd, rfl, hf⟩ := exists_of_firstExploitable hfirst
    exact ⟨d, f, hd, hf, build_of_firstExploitable hfirst⟩

/-! ## The type under a key -/

/-- What is resolved is what is found. -/
theorem resolve_eq_ok_iff {key : TypeName.Key} {d : Descriptor C} :
    l.resolve key = .ok d ↔ l.find? key = some d := by
  rw [resolve]
  cases l.find? key <;> simp

/-- Under a key stands the last candidate that has it. -/
theorem resolve_eq_ok_iff_of_build (h : build (some cs) = .ok l) {key : TypeName.Key}
    {d : Descriptor C} : l.resolve key = .ok d ↔ IsLast (fun e => e.key = key) cs d := by
  rw [resolve_eq_ok_iff, find?_of_build h]
  exact find?_reverse_eq_some_iff_isLast fun e => decide_eq_true_iff

/-- A key that no candidate has is refused by name. -/
theorem resolve_of_forall_ne (h : build (some cs) = .ok l) {key : TypeName.Key}
    (hkey : ∀ e ∈ cs, e.key ≠ key) :
    l.resolve key = .error (.unknownType key.identity key.name) := by
  rw [resolve, (find?_eq_none_iff_of_build h key).2 hkey]

/-! ## The key of a type -/

/-- A tag is recorded for a type that has none. -/
theorem find?_insertTag (d : Descriptor C) (tags : List (C.Code × TypeName.Key)) (c : C.Code) :
    (insertTag d tags).find? (fun t => t.1 = c)
      = (tags.find? fun t => t.1 = c).or (if d.code = c then some (d.code, d.key) else none) := by
  rw [insertTag]
  split
  · -- the type of `d` has a tag, so where `c` has none it is another type
    rename_i hany
    cases hfind : tags.find? fun t => t.1 = c with
    | some t => rfl
    | none =>
      have hne : d.code ≠ c := by
        rintro rfl
        rw [List.find?_eq_none] at hfind
        obtain ⟨t, ht, htd⟩ := List.any_eq_true.1 hany
        exact hfind t ht htd
      rw [if_neg hne, Option.or_none]
  · rw [List.find?_append, List.find?_singleton]
    simp

/-- With more candidates, the first of them of a type counts where the type had no tag. -/
theorem find?_tags_foldl_add (cs : List (Descriptor C)) (l : AllowList C) (c : C.Code) :
    (cs.foldl add l).tags.find? (fun t => t.1 = c)
      = (l.tags.find? fun t => t.1 = c).or
          ((cs.find? fun d => d.code = c).map fun d => (d.code, d.key)) := by
  induction cs generalizing l with
  | nil => simp
  | cons d cs ih =>
    have hadd : (l.add d).tags = insertTag d l.tags := rfl
    rw [List.foldl_cons, ih, hadd, find?_insertTag, Option.or_assoc]
    -- what is left is the search among the candidates, with `d` in front
    congr 1
    by_cases hd : d.code = c
    · simp [hd]
    · simp [hd]

/-- A type is written under the key of the first candidate of that type, or else under its own. -/
theorem describe_of_build (h : build (some cs) = .ok l) (x : Descriptor C) :
    l.describe x = ((cs.find? fun d => d.code = x.code).map Descriptor.key).getD x.key := by
  have htags := find?_tags_foldl_add cs ⟨[], []⟩ x.code
  rw [← eq_foldl_of_build h, List.find?_nil, Option.none_or] at htags
  rw [describe, htags]
  cases cs.find? fun d => d.code = x.code <;> rfl

/-- A type with candidates is written under the key of the first. -/
theorem describe_of_isFirst (h : build (some cs) = .ok l) {x d : Descriptor C}
    (hd : IsFirst (fun e => e.code = x.code) cs d) : l.describe x = d.key := by
  have hfind : cs.find? (fun e => e.code = x.code) = some d :=
    (find?_eq_some_iff_isFirst fun e => decide_eq_true_iff).2 hd
  rw [describe_of_build h, hfind]
  rfl

/-- A type without candidates is written under its own key. -/
theorem describe_of_forall_ne (h : build (some cs) = .ok l) {x : Descriptor C}
    (hx : ∀ e ∈ cs, e.code ≠ x.code) : l.describe x = x.key := by
  have hfind : cs.find? (fun e => e.code = x.code) = none := by
    rw [List.find?_eq_none]
    intro e he
    simpa using hx e he
  rw [describe_of_build h, hfind]
  rfl

/-! ## One candidate -/

/-- With one candidate, its key is the only one. -/
theorem resolve_of_build_singleton {d : Descriptor C} (h : build (some [d]) = .ok l)
    (key : TypeName.Key) :
    l.resolve key
      = if d.key = key then .ok d else .error (.unknownType key.identity key.name) := by
  rw [resolve, find?_of_build h]
  by_cases hkey : d.key = key
  · simp [hkey]
  · simp [hkey]

/-- With one candidate, its type is written under its key. -/
theorem describe_of_build_singleton {d x : Descriptor C} (h : build (some [d]) = .ok l)
    (hx : d.code = x.code) : l.describe x = d.key :=
  describe_of_isFirst h ⟨[], [], rfl, hx, fun _ hmem => absurd hmem List.not_mem_nil⟩

/-! ## How many there are, and which -/

/-- The keys of an allow-list, in the order of its entries. -/
def keys (l : AllowList C) : List TypeName.Key := l.entries.map Prod.fst

/-- The keys after one more entry: a new one comes last. -/
theorem map_fst_insertEntry (d : Descriptor C) (entries : List (TypeName.Key × Descriptor C)) :
    (insertEntry d entries).map Prod.fst
      = if d.key ∈ entries.map Prod.fst then entries.map Prod.fst
        else entries.map Prod.fst ++ [d.key] := by
  induction entries with
  | nil => simp [insertEntry]
  | cons e rest ih =>
    obtain ⟨k, e⟩ := e
    rw [insertEntry]
    by_cases hk : k = d.key
    · simp [hk]
    · rw [if_neg hk, List.map_cons, ih]
      by_cases hmem : d.key ∈ rest.map Prod.fst
      · have hmem' : d.key ∈ ((k, e) :: rest).map Prod.fst := List.mem_cons_of_mem _ hmem
        rw [if_pos hmem, if_pos hmem', List.map_cons]
      · have hnot : d.key ∉ ((k, e) :: rest).map Prod.fst := by
          rw [List.map_cons, List.mem_cons, not_or]
          exact ⟨Ne.symm hk, hmem⟩
        rw [if_neg hmem, if_neg hnot, List.map_cons, List.cons_append]

/-- With more candidates, keys stay distinct, and exactly theirs come in. -/
theorem keys_foldl_add (cs : List (Descriptor C)) (l : AllowList C) (hl : l.keys.Nodup) :
    (cs.foldl add l).keys.Nodup ∧
      ∀ key, key ∈ (cs.foldl add l).keys ↔ key ∈ l.keys ∨ key ∈ cs.map Descriptor.key := by
  induction cs generalizing l with
  | nil => simp [hl]
  | cons d cs ih =>
    have hkeys : (l.add d).keys = if d.key ∈ l.keys then l.keys else l.keys ++ [d.key] :=
      map_fst_insertEntry d l.entries
    -- a key comes in only if it is new, so the keys stay distinct
    have hnodup : (l.add d).keys.Nodup := by
      rw [hkeys]
      split
      · exact hl
      · rename_i hnew
        rw [List.nodup_append]
        refine ⟨hl, List.nodup_singleton _, fun a ha b hb => ?_⟩
        rw [List.mem_singleton.1 hb]
        rintro rfl
        exact hnew ha
    have hmem : ∀ key, key ∈ (l.add d).keys ↔ key ∈ l.keys ∨ key = d.key := by
      intro key
      rw [hkeys]
      split
      · rename_i hold
        refine ⟨Or.inl, ?_⟩
        rintro (h | rfl)
        · exact h
        · exact hold
      · rw [List.mem_append, List.mem_singleton]
    obtain ⟨ihnodup, ihmem⟩ := ih (l.add d) hnodup
    refine ⟨ihnodup, fun key => ?_⟩
    rw [List.foldl_cons, ihmem, hmem, List.map_cons, List.mem_cons, or_assoc]

/-- The keys of what was built are those of the candidates, each once. -/
theorem keys_of_build (h : build (some cs) = .ok l) :
    l.keys.Nodup ∧ ∀ key, key ∈ l.keys ↔ key ∈ cs.map Descriptor.key := by
  obtain ⟨hnodup, hmem⟩ := keys_foldl_add cs ⟨[], []⟩ List.nodup_nil
  rw [← eq_foldl_of_build h] at hnodup hmem
  refine ⟨hnodup, fun key => ?_⟩
  rw [hmem key]
  exact or_iff_right List.not_mem_nil

/-- There are as many trusted types as distinct keys of candidates. -/
theorem size_of_build (h : build (some cs) = .ok l) :
    l.size = (cs.map Descriptor.key).toFinset.card := by
  obtain ⟨hnodup, hmem⟩ := keys_of_build h
  have hset : l.keys.toFinset = (cs.map Descriptor.key).toFinset := by
    ext key
    rw [List.mem_toFinset, List.mem_toFinset, hmem]
  have hlength : l.keys.length = l.size := List.length_map _
  rw [← hlength, ← List.toFinset_card_of_nodup hnodup, hset]

/-- Where keys are distinct, each entry is found under its key. -/
theorem find?_of_mem_entries (hl : l.keys.Nodup) {key : TypeName.Key} {d : Descriptor C}
    (h : (key, d) ∈ l.entries) : l.find? key = some d := by
  obtain ⟨before, after, hentries⟩ := List.append_of_mem h
  rw [keys, hentries, List.map_append, List.map_cons, List.nodup_append] at hl
  have hbefore : ∀ e ∈ before, e.1 ≠ key := fun e he =>
    hl.2.2 e.1 (List.mem_map_of_mem he) key List.mem_cons_self
  have hfirst : IsFirst (fun e => e.1 = key) l.entries (key, d) :=
    ⟨before, after, hentries, rfl, hbefore⟩
  have hfind : l.entries.find? (fun e => e.1 = key) = some (key, d) :=
    (find?_eq_some_iff_isFirst fun e => decide_eq_true_iff).2 hfirst
  rw [find?, hfind]
  rfl

/-- The trusted types are those that are found under some key. -/
theorem mem_types_iff_of_build (h : build (some cs) = .ok l) {d : Descriptor C} :
    d ∈ l.types ↔ ∃ key, l.resolve key = .ok d := by
  constructor
  · intro hd
    obtain ⟨⟨key, e⟩, he, rfl⟩ := List.mem_map.1 hd
    exact ⟨key, resolve_eq_ok_iff.2 (find?_of_mem_entries (keys_of_build h).1 he)⟩
  · rintro ⟨key, hkey⟩
    rw [resolve_eq_ok_iff, find?, Option.map_eq_some_iff] at hkey
    obtain ⟨e, he, rfl⟩ := hkey
    exact List.mem_map_of_mem (List.mem_of_find?_eq_some he)

/-- What is resolved is a candidate, and no candidate of what was built is dangerous. -/
theorem not_dangerous_of_resolve (h : build (some cs) = .ok l) {key : TypeName.Key}
    {d : Descriptor C} (hd : l.resolve key = .ok d) : ¬ Dangerous d.identity := by
  have hmem : d ∈ cs := ((resolve_eq_ok_iff_of_build h).1 hd).mem
  exact (build_eq_ok_iff.1 h).2.1 d hmem

/-! ## Main statements -/

/-- **An allow-list refines its candidates.**  A build from a list succeeds exactly if there are
candidates and none of them is dangerous; with a dangerous one it names the first and the first
fragment in it.  What was built resolves a key to the last candidate with that key, or refuses it by
name; describes a type by the key of its first candidate, or by its own; has as many types as
candidates have distinct keys; and gives out no type with a dangerous identity. -/
theorem refines_candidates (cs : List (Descriptor C)) :
    ((∃ l, build (some cs) = .ok l) ↔ cs ≠ [] ∧ ∀ d ∈ cs, ¬ Dangerous d.identity) ∧
    ((∃ d ∈ cs, Dangerous d.identity) →
      ∃ d f, IsFirst (fun e => Dangerous e.identity) cs d ∧
        IsFirst (· <:+: d.identity) Exploitable.fragments f ∧
        build (some cs) = .error (.exploitable d.identity f)) ∧
    ∀ l, build (some cs) = .ok l →
      (∀ key d, l.resolve key = .ok d ↔ IsLast (fun e => e.key = key) cs d) ∧
      (∀ key, (∀ e ∈ cs, e.key ≠ key) →
        l.resolve key = .error (.unknownType key.identity key.name)) ∧
      (∀ x d, IsFirst (fun e => e.code = x.code) cs d → l.describe x = d.key) ∧
      (∀ x, (∀ e ∈ cs, e.code ≠ x.code) → l.describe x = x.key) ∧
      l.size = (cs.map Descriptor.key).toFinset.card ∧
      ∀ d, (∃ key, l.resolve key = .ok d) ∨ d ∈ l.types → ¬ Dangerous d.identity := by
  refine ⟨⟨?_, ?_⟩, build_of_exploitable, fun l hbuild => ⟨?_, ?_, ?_, ?_, ?_, ?_⟩⟩
  · rintro ⟨l, hbuild⟩
    obtain ⟨hne, hharmless, -⟩ := build_eq_ok_iff.1 hbuild
    exact ⟨hne, hharmless⟩
  · rintro ⟨hne, hharmless⟩
    exact ⟨_, build_eq_ok_iff.2 ⟨hne, hharmless, rfl⟩⟩
  · intro key d
    exact resolve_eq_ok_iff_of_build hbuild
  · intro key hkey
    exact resolve_of_forall_ne hbuild hkey
  · intro x d hd
    exact describe_of_isFirst hbuild hd
  · intro x hx
    exact describe_of_forall_ne hbuild hx
  · exact size_of_build hbuild
  · rintro d (⟨key, hkey⟩ | hd)
    · exact not_dangerous_of_resolve hbuild hkey
    · obtain ⟨key, hkey⟩ := (mem_types_iff_of_build hbuild).1 hd
      exact not_dangerous_of_resolve hbuild hkey

/-- The key that the type of a candidate is written under is that of some candidate. -/
theorem exists_key_eq_describe (hbuild : build (some cs) = .ok l) {c : Descriptor C}
    (hc : c ∈ cs) : ∃ e ∈ cs, e.key = l.describe c := by
  cases hfind : cs.find? fun e => e.code = c.code with
  | none =>
    rw [List.find?_eq_none] at hfind
    exact absurd (decide_eq_true rfl) (hfind c hc)
  | some e =>
    have he : IsFirst (fun e => e.code = c.code) cs e :=
      (find?_eq_some_iff_isFirst fun e => decide_eq_true_iff).1 hfind
    exact ⟨e, he.mem, (describe_of_isFirst hbuild he).symm⟩

/-- **Describing and resolving.**  The key that the type of a candidate is written under is always
trusted, and leads to the last candidate with that key.  This is the same type exactly if some
candidate of that type has the key and no other type follows under it. -/
theorem resolve_describe (hbuild : build (some cs) = .ok l) {c : Descriptor C} (hc : c ∈ cs) :
    ∃ d, l.resolve (l.describe c) = .ok d ∧ IsLast (fun e => e.key = l.describe c) cs d ∧
      (d.code = c.code ↔
        ∃ before e after, cs = before ++ e :: after ∧ e.key = l.describe c ∧ e.code = c.code ∧
          ∀ x ∈ after, x.key = l.describe c → x.code = c.code) := by
  obtain ⟨e₀, he₀, hkey₀⟩ := exists_key_eq_describe hbuild hc
  cases hfind : l.find? (l.describe c) with
  | none => exact absurd hkey₀ ((find?_eq_none_iff_of_build hbuild _).1 hfind e₀ he₀)
  | some d =>
    have hresolve : l.resolve (l.describe c) = .ok d := resolve_eq_ok_iff.2 hfind
    have hlast : IsLast (fun e => e.key = l.describe c) cs d :=
      (resolve_eq_ok_iff_of_build hbuild).1 hresolve
    refine ⟨d, hresolve, hlast, ⟨fun hd => ?_, ?_⟩⟩
    · obtain ⟨before, after, hcs, hkey, hafter⟩ := hlast
      exact ⟨before, d, after, hcs, hkey, hd, fun x hx hxkey => absurd hxkey (hafter x hx)⟩
    · rintro ⟨before, e, after, hcs, hkey, he, hafter⟩
      rcases hlast.eq_or_mem hcs hkey with rfl | hmem
      · exact he
      · exact hafter d hmem hlast.holds

/-! ## Two types under one name -/

namespace Sample

/-- Two types without a path in their names. -/
inductive Code
  | pair
  | triple
  deriving DecidableEq

/-- Their values are all documents. -/
def catalogue : Catalogue where
  Code := Code
  decEq := inferInstance
  Value _ := Json
  fullName
    | .pair => "(i64, alloc::string::String)"
    | .triple => "[u8; 3]"
  decode _ j := .ok j
  encode _ j := .ok j

/-- A type published as `Dto, Contoso`. -/
def dto (c : Code) : Descriptor catalogue := ⟨"Dto".toList, "Contoso".toList, c⟩

/-- What is trusted when both types are published under that one name. -/
def dtos : AllowList catalogue :=
  ⟨[((dto .triple).key, dto .triple)], [(.pair, (dto .pair).key), (.triple, (dto .triple).key)]⟩

theorem build_dtos : build (some [dto .pair, dto .triple]) = .ok dtos := by
  have hdot : '.' ∉ (dto .pair).identity := by decide
  have hfind : ∀ c, Exploitable.find? (dto c).identity = none := fun _ =>
    Exploitable.find?_of_dot_not_mem hdot
  refine build_of_not_exploitable (List.cons_ne_nil _ _) ?_
  simp [hfind]

end Sample

/-- Of two types under one name, the later one is described and resolved as itself. -/
theorem resolve_describe_later :
    ∃ l, build (some [Sample.dto .pair, Sample.dto .triple]) = .ok l ∧
      ∃ d, l.resolve (l.describe (Sample.dto .triple)) = .ok d ∧ d.code = .triple := by
  refine ⟨Sample.dtos, Sample.build_dtos, ?_⟩
  obtain ⟨d, hresolve, -, hcode⟩ :=
    resolve_describe Sample.build_dtos (c := Sample.dto .triple) (by simp)
  refine ⟨d, hresolve, hcode.2 ⟨[Sample.dto .pair], Sample.dto .triple, [], rfl, rfl, rfl, ?_⟩⟩
  intro x hx
  cases hx

/-- Of two types under one name, the earlier one is described by that name and resolved as the
other. -/
theorem resolve_describe_earlier :
    ∃ l, build (some [Sample.dto .pair, Sample.dto .triple]) = .ok l ∧
      Sample.dto .pair ∈ [Sample.dto .pair, Sample.dto .triple] ∧
      ¬ ∃ d, l.resolve (l.describe (Sample.dto .pair)) = .ok d ∧ d.code = .pair := by
  refine ⟨Sample.dtos, Sample.build_dtos, List.mem_cons_self, ?_⟩
  rintro ⟨d, hresolve, hcode⟩
  have hother : Sample.dtos.resolve (Sample.dtos.describe (Sample.dto .pair))
      = .ok (Sample.dto .triple) := rfl
  rw [hother] at hresolve
  cases hresolve
  cases hcode

end AllowList

end Rampart
