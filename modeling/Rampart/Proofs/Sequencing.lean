import Mathlib
import Rampart.Failure

/-!
# Steps that can fail

A sequence of steps succeeds when each of them does, and fails with the first fault.  Steps that
report have the results of steps that do not.
-/

namespace Rampart

variable {ε α β : Type}

/-- Two steps succeed together when the first does and the second does with its result. -/
theorem bind_eq_ok_iff {x : Except ε α} {f : α → Except ε β} {b : β} :
    x >>= f = .ok b ↔ ∃ a, x = .ok a ∧ f a = .ok b := by
  cases x with
  | error e =>
    constructor
    · intro h
      cases h
    · rintro ⟨a, h, -⟩
      cases h
  | ok a =>
    constructor
    · intro h
      exact ⟨a, rfl, h⟩
    · rintro ⟨a', h, hf⟩
      cases h
      exact hf

/-- Two steps fail together when the first does, or when the second does with its result. -/
theorem bind_eq_error_iff {x : Except ε α} {f : α → Except ε β} {e : ε} :
    x >>= f = .error e ↔ x = .error e ∨ ∃ a, x = .ok a ∧ f a = .error e := by
  cases x with
  | error e' =>
    constructor
    · intro h
      cases h
      exact Or.inl rfl
    · rintro (h | ⟨a, h, -⟩)
      · cases h
        rfl
      · cases h
  | ok a =>
    constructor
    · intro h
      exact Or.inr ⟨a, rfl, h⟩
    · rintro (h | ⟨a', h, hf⟩)
      · cases h
      · cases h
        exact hf

/-- A step that fails does not succeed. -/
theorem not_exists_ok_of_error {x : Except ε α} {e : ε} (h : x = .error e) :
    ¬ ∃ a, x = .ok a := by
  rintro ⟨a, ha⟩
  rw [h] at ha
  cases ha

/-- A step with its result changed succeeds when the step does. -/
theorem map_eq_ok_iff {x : Except ε α} {f : α → β} {b : β} :
    x.map f = .ok b ↔ ∃ a, x = .ok a ∧ f a = b := by
  cases x <;> simp [Except.map]

/-- The fault of a step, if it fails. -/
def errorOf : Except ε α → Option ε
  | .error e => some e
  | .ok _ => none

theorem errorOf_eq_some_iff {x : Except ε α} {e : ε} : errorOf x = some e ↔ x = .error e := by
  cases x <;> simp [errorOf]

/-- Where the fault of the second step does not hang on the result of the first, a sequence has the
fault of the first step or else that of the second. -/
theorem errorOf_bind {x : Except ε α} {f : α → Except ε β} {fault : Option ε}
    (h : ∀ a, errorOf (f a) = fault) : errorOf (x >>= f) = (errorOf x).or fault := by
  cases x with
  | error e => rfl
  | ok a => exact h a

/-! ## Steps that report -/

namespace Report

@[simp] theorem result_ofResult (x : Except Failure α) : (ofResult x).result = x := rfl

@[simp] theorem result_pure (a : α) : (pure a : Report α).result = .ok a := rfl

/-- What is reported has no bearing on how steps follow one another. -/
theorem result_bind (r : Report α) (f : α → Report β) :
    (r >>= f).result = r.result >>= fun a => (f a).result := by
  show (r.andThen f).result = _
  rw [andThen]
  cases r.result <;> rfl

/-- What follows a step has to be known only for the result that the step has. -/
theorem bind_congr_of_ok {r : Report α} {f g : α → Report β}
    (h : ∀ a, r.result = .ok a → f a = g a) : r >>= f = r >>= g := by
  show r.andThen f = r.andThen g
  rw [andThen, andThen]
  cases hresult : r.result with
  | error e => rfl
  | ok a =>
    dsimp only
    rw [h a hresult]

/-- Reports follow one another like plain steps. -/
instance : LawfulMonad Report := by
  refine LawfulMonad.mk' Report ?_ (fun _ _ => rfl) ?_
  · rintro α ⟨result, records, incidents⟩
    show andThen _ (fun a => ofResult (.ok a)) = _
    cases result with
    | error f => rfl
    | ok a =>
      show Report.mk _ (records ++ []) (incidents ++ []) = _
      rw [List.append_nil, List.append_nil]
      rfl
  · rintro α β γ ⟨result, records, incidents⟩ f g
    show andThen (andThen _ f) g = andThen _ fun a => andThen (f a) g
    cases result with
    | error e => rfl
    | ok a =>
      unfold andThen
      dsimp only
      cases (f a).result with
      | error e => rfl
      | ok b =>
        dsimp only
        rw [List.append_assoc, List.append_assoc]

end Report

end Rampart
