import Mathlib
import Rampart.Json.Reader
import Rampart.Proofs.Sequencing

/-!
# Reading numbers

A number ends where a character comes that no number has, and what comes behind does not matter for
it.  Whole numbers of 64 bits are read back from their decimal digits.

* `Json.simpleValue_append` : a number is read the same whatever follows it;
* `Json.simpleValue_ofInt` : whole numbers are read back.
-/

namespace Rampart.Json

/-! ## What follows a number -/

/-- A text that no number goes on with: it is empty or starts with a character that no number
has. -/
def EndsNumber (rest : Text) : Prop :=
  ∀ c ∈ rest.head?, Text.isDigit c = false ∧ c ≠ '.' ∧ c ≠ 'e' ∧ c ≠ 'E'

variable {rest : Text}

/-- The digits in front do not reach beyond the end of a number. -/
theorem takeWhile_append_of_endsNumber (hrest : EndsNumber rest) (t : Text) :
    (t ++ rest).takeWhile Text.isDigit = t.takeWhile Text.isDigit := by
  induction t with
  | nil =>
    cases rest with
    | nil => rfl
    | cons c t => exact List.takeWhile_cons_of_neg (by simp [(hrest c rfl).1])
  | cons c t ih =>
    rw [List.cons_append, List.takeWhile_cons, List.takeWhile_cons, ih]

/-- Nothing behind the end of a number is lost with its digits. -/
theorem dropWhile_append_of_endsNumber (hrest : EndsNumber rest) (t : Text) :
    (t ++ rest).dropWhile Text.isDigit = t.dropWhile Text.isDigit ++ rest := by
  induction t with
  | nil =>
    cases rest with
    | nil => rfl
    | cons c t => exact List.dropWhile_cons_of_neg (by simp [(hrest c rfl).1])
  | cons c t ih =>
    rw [List.cons_append, List.dropWhile_cons, List.dropWhile_cons, ih]
    split <;> rfl

theorem finishFloat_append {negative : Bool} {m : Nat} {e : Int} {t r : Text} {n : JsonNumber}
    (h : finishFloat negative m e t = .ok (n, r)) :
    finishFloat negative m e (t ++ rest) = .ok (n, r ++ rest) := by
  rw [finishFloat] at h ⊢
  cases hx : scale m e with
  | none =>
    rw [hx] at h
    cases h
  | some x =>
    rw [hx] at h
    cases h
    rfl

/-- The exponent behind its sign. -/
def exponentDigits (negative : Bool) (significand : Nat) (start : Int) (down : Bool) (t : Text) :
    Reading (JsonNumber × Text) :=
  match t with
  | [] => stop .endInValue []
  | c :: _ =>
    if Text.isDigit c then
      let digits := t.takeWhile Text.isDigit
      let rest := t.dropWhile Text.isDigit
      let (e, left) := absorb maxExponent 0 digits
      if left = 0 then finishFloat negative significand (if down then start - e else start + e) rest
      else if significand ≠ 0 && !down then
        .error ⟨.numberOutOfRange, .unread (Text.byteSize rest + (left - 1))⟩
      else .ok (.float (.zero negative), rest)
    else stopOn .invalidNumber t

/-- A text without a sign in front. -/
theorem signed_of_ne {t : Text} (hminus : ∀ u, t ≠ '-' :: u) (hplus : ∀ u, t ≠ '+' :: u) :
    Text.signed t = (false, t) := by
  unfold Text.signed
  split
  · exact absurd rfl (hminus _)
  · exact absurd rfl (hplus _)
  · rfl

/-- A sign is seen whatever follows. -/
theorem signed_append {t : Text} (ht : t ≠ []) (rest : Text) :
    Text.signed (t ++ rest) = ((Text.signed t).1, (Text.signed t).2 ++ rest) := by
  obtain ⟨c, t, rfl⟩ := List.exists_cons_of_ne_nil ht
  by_cases hminus : c = '-'
  · subst hminus
    rfl
  · by_cases hplus : c = '+'
    · subst hplus
      rfl
    · rw [signed_of_ne (by simp [hminus]) (by simp [hplus]),
        signed_of_ne (by simp [hminus]) (by simp [hplus])]

/-- An exponent is a sign, if there is one, and digits. -/
theorem exponentPart_eq (negative : Bool) (m : Nat) (e : Int) (t : Text) :
    exponentPart negative m e t
      = exponentDigits negative m e (Text.signed t).1 (Text.signed t).2 := by
  unfold exponentPart
  split
  rename_i heq
  split at heq
  · cases heq
    rfl
  · cases heq
    rfl
  · -- there is no sign; the two matches try the signs in different order
    rename_i hplus hminus
    cases heq
    rw [signed_of_ne hminus hplus]
    rfl

theorem exponentDigits_append (hrest : EndsNumber rest) {negative down : Bool} {m : Nat} {e : Int}
    {t r : Text} {n : JsonNumber} (h : exponentDigits negative m e down t = .ok (n, r)) :
    exponentDigits negative m e down (t ++ rest) = .ok (n, r ++ rest) := by
  cases t with
  | nil => cases h
  | cons c t =>
    simp only [exponentDigits] at h
    rw [List.cons_append]
    simp only [exponentDigits]
    rw [← List.cons_append, takeWhile_append_of_endsNumber hrest,
      dropWhile_append_of_endsNumber hrest]
    split_ifs at h ⊢
    · exact finishFloat_append h
    · exact finishFloat_append h
    · cases h
      rfl
    · cases h

theorem exponentPart_append (hrest : EndsNumber rest) {negative : Bool} {m : Nat} {e : Int}
    {t r : Text} {n : JsonNumber} (h : exponentPart negative m e t = .ok (n, r)) :
    exponentPart negative m e (t ++ rest) = .ok (n, r ++ rest) := by
  rw [exponentPart_eq] at h ⊢
  cases t with
  | nil => cases h
  | cons c t =>
    rw [signed_append (List.cons_ne_nil c t)]
    exact exponentDigits_append hrest h

theorem wholePart_append {negative whole : Bool} {m : Nat} {start : Int} {t r : Text}
    {n : JsonNumber} (h : fractionPart.wholePart negative m start whole t = .ok (n, r)) :
    fractionPart.wholePart negative m start whole (t ++ rest) = .ok (n, r ++ rest) := by
  unfold fractionPart.wholePart at h ⊢
  split_ifs at h ⊢
  · exact finishFloat_append h
  · cases h
    rfl
  · cases h
    rfl
  · exact finishFloat_append h

/-- Reads an exponent if one comes next, and goes on with `otherwise` if not. -/
def orExponent (otherwise : Text → Reading (JsonNumber × Text)) (negative : Bool)
    (significand : Nat) (start : Int) (t : Text) : Reading (JsonNumber × Text) :=
  match t with
  | c :: after =>
    if c = 'e' || c = 'E' then exponentPart negative significand start after else otherwise t
  | [] => otherwise t

theorem orExponent_append (hrest : EndsNumber rest)
    {otherwise : Text → Reading (JsonNumber × Text)} {negative : Bool} {m : Nat} {e : Int}
    {t r : Text} {n : JsonNumber}
    (hother : otherwise t = .ok (n, r) → otherwise (t ++ rest) = .ok (n, r ++ rest))
    (h : orExponent otherwise negative m e t = .ok (n, r)) :
    orExponent otherwise negative m e (t ++ rest) = .ok (n, r ++ rest) := by
  cases t with
  | nil =>
    cases rest with
    | nil => exact hother h
    | cons c u =>
      have hc := hrest c rfl
      rw [List.nil_append, orExponent, if_neg (by simp [hc.2.2])]
      exact hother h
  | cons c t =>
    simp only [orExponent] at h
    rw [List.cons_append, orExponent]
    split_ifs at h ⊢
    · exact exponentPart_append hrest h
    · exact hother h

/-- Behind a point come digits, and possibly an exponent. -/
theorem fractionPart_point (negative whole : Bool) (m : Nat) (start : Int) (t : Text) :
    fractionPart negative m start whole ('.' :: t)
      = if (t.takeWhile Text.isDigit).isEmpty then
          stopOn (if (t.dropWhile Text.isDigit).isEmpty then .endInValue else .invalidNumber)
            (t.dropWhile Text.isDigit)
        else
          let read := absorb maxWhole m (t.takeWhile Text.isDigit)
          let e : Int := start - ((t.takeWhile Text.isDigit).length - read.2)
          orExponent (finishFloat negative read.1 e) negative read.1 e
            (t.dropWhile Text.isDigit) := rfl

/-- Without a point, there may be an exponent. -/
theorem fractionPart_of_ne {t : Text} (ht : ∀ u, t ≠ '.' :: u) (negative whole : Bool) (m : Nat)
    (start : Int) :
    fractionPart negative m start whole t
      = orExponent (fractionPart.wholePart negative m start whole) negative m start t := by
  unfold fractionPart
  split
  · exact absurd rfl (ht _)
  · rfl
  · rfl

theorem fractionPart_append (hrest : EndsNumber rest) {negative whole : Bool} {m : Nat}
    {start : Int} {t r : Text} {n : JsonNumber}
    (h : fractionPart negative m start whole t = .ok (n, r)) :
    fractionPart negative m start whole (t ++ rest) = .ok (n, r ++ rest) := by
  by_cases hpoint : ∃ u, t = '.' :: u
  · obtain ⟨u, rfl⟩ := hpoint
    rw [fractionPart_point] at h
    rw [List.cons_append, fractionPart_point, takeWhile_append_of_endsNumber hrest,
      dropWhile_append_of_endsNumber hrest]
    by_cases hdigits : (u.takeWhile Text.isDigit).isEmpty
    · rw [if_pos hdigits] at h
      cases h
    · rw [if_neg hdigits] at h ⊢
      exact orExponent_append hrest finishFloat_append h
  · have ht : ∀ u, t ≠ '.' :: u := fun u h => hpoint ⟨u, h⟩
    -- if nothing is left of the number, the point would have to come from the rest
    have htrest : ∀ u, t ++ rest ≠ '.' :: u := by
      intro u hu
      cases t with
      | nil =>
        rw [List.nil_append] at hu
        exact (hrest '.' (by rw [hu]; rfl)).2.1 rfl
      | cons c t =>
        rw [List.cons_append, List.cons.injEq] at hu
        exact ht t (by rw [hu.1])
    rw [fractionPart_of_ne ht] at h
    rw [fractionPart_of_ne htrest]
    exact orExponent_append hrest wholePart_append h

/-- What follows a number does not matter for it. -/
theorem number_append (hrest : EndsNumber rest) {negative : Bool} {t r : Text} {n : JsonNumber}
    (h : number negative t = .ok (n, r)) :
    number negative (t ++ rest) = .ok (n, r ++ rest) := by
  cases t with
  | nil => cases h
  | cons c t =>
    simp only [number] at h
    rw [List.cons_append]
    simp only [number]
    split_ifs at h ⊢
    · -- a zero stands alone in front, so the next character is looked at, wherever it comes from
      cases t with
      | nil =>
        cases rest with
        | nil => exact fractionPart_append hrest h
        | cons d u =>
          rw [List.nil_append]
          simp only [(hrest d rfl).1]
          exact fractionPart_append hrest h
      | cons d t =>
        rw [List.cons_append]
        simp only at h ⊢
        split_ifs at h ⊢
        · cases h
        · exact fractionPart_append hrest h
    · rw [← List.cons_append, takeWhile_append_of_endsNumber hrest,
        dropWhile_append_of_endsNumber hrest]
      exact fractionPart_append hrest h
    · cases h

/-- A minus sign starts a negative number. -/
theorem simpleValue_minus (u : Text) :
    simpleValue ('-' :: u) = (number true u).map fun p => (.num p.1, p.2) := by
  show (number true u >>= _) = _
  cases number true u <;> rfl

/-- A digit starts a number that is not negative. -/
theorem simpleValue_digit {c : Char} (hc : Text.isDigit c = true) (u : Text) :
    simpleValue (c :: u) = (number false (c :: u)).map fun p => (.num p.1, p.2) := by
  have hne : c ≠ 'n' ∧ c ≠ 't' ∧ c ≠ 'f' ∧ c ≠ '-' := by
    refine ⟨?_, ?_, ?_, ?_⟩
    all_goals
      rintro rfl
      exact absurd hc (by decide)
  rw [simpleValue, if_neg hne.1, if_neg hne.2.1, if_neg hne.2.2.1, if_neg hne.2.2.2, if_pos hc]
  cases number false (c :: u) <;> rfl

/-- Numbers start with a minus sign or a digit. -/
theorem exists_of_simpleValue_eq_num {t r : Text} {n : JsonNumber}
    (h : simpleValue t = .ok (.num n, r)) :
    ∃ c u, t = c :: u ∧ (c = '-' ∨ Text.isDigit c = true) := by
  unfold simpleValue at h
  split at h
  · cases h
  · rename_i c u
    refine ⟨c, u, rfl, ?_⟩
    split_ifs at h with hn ht hf hminus hdigit
    · obtain ⟨_, -, h⟩ := bind_eq_ok_iff.1 h
      cases h
    · obtain ⟨_, -, h⟩ := bind_eq_ok_iff.1 h
      cases h
    · obtain ⟨_, -, h⟩ := bind_eq_ok_iff.1 h
      cases h
    · exact Or.inl hminus
    · exact Or.inr hdigit
    · cases h

/-- What follows a number does not matter for it, be it negative or not. -/
theorem simpleValue_append (hrest : EndsNumber rest) {t r : Text} {n : JsonNumber}
    (h : simpleValue t = .ok (.num n, r)) : simpleValue (t ++ rest) = .ok (.num n, r ++ rest) := by
  obtain ⟨c, u, rfl, rfl | hc⟩ := exists_of_simpleValue_eq_num h
  · rw [simpleValue_minus, map_eq_ok_iff] at h
    obtain ⟨⟨m, r'⟩, hnumber, heq⟩ := h
    cases heq
    rw [List.cons_append, simpleValue_minus, number_append hrest hnumber]
    rfl
  · rw [simpleValue_digit hc, map_eq_ok_iff] at h
    obtain ⟨⟨m, r'⟩, hnumber, heq⟩ := h
    cases heq
    rw [List.cons_append, simpleValue_digit hc, ← List.cons_append, number_append hrest hnumber]
    rfl

/-! ## Whole numbers -/

/-- The value of a digit that is written. -/
theorem digit?_digitChar {d : Nat} (hd : d < 10) : Text.digit? d.digitChar = some d := by
  interval_cases d <;> rfl

/-- Numbers are written with digits. -/
theorem isDigit_of_mem_ofNat {n : Nat} {c : Char} (h : c ∈ Text.ofNat n) :
    Text.isDigit c = true := by
  have hdigit := Nat.isDigit_of_mem_toDigits (by decide) (by decide) h
  simpa [Text.isDigit, Text.digit?, Char.isDigit, Char.le_def] using hdigit

/-- The digits of a number denote it. -/
theorem digitsValue_ofNat (n : Nat) : Text.digitsValue (Text.ofNat n) = n := by
  induction n using Nat.strongRecOn with
  | ind n ih =>
    rw [Text.ofNat, Nat.toDigits_eq_if (by decide)]
    split
    · rename_i hn
      simp [Text.digitsValue, digit?_digitChar hn]
    · have hrec := ih (n / 10) (by omega)
      rw [Text.ofNat, Text.digitsValue] at hrec
      rw [Text.digitsValue, List.foldl_append, hrec, List.foldl_cons, List.foldl_nil,
        digit?_digitChar (Nat.mod_lt n (by decide)), Option.getD_some]
      omega

/-- A number other than zero is not written with a zero in front. -/
theorem ofNat_of_ne_zero {n : Nat} (hn : n ≠ 0) : ∃ c t, Text.ofNat n = c :: t ∧ c ≠ '0' := by
  induction n using Nat.strongRecOn with
  | ind n ih =>
    rw [Text.ofNat, Nat.toDigits_eq_if (by decide)]
    split
    · exact ⟨_, [], rfl, by simpa using hn⟩
    · obtain ⟨c, t, hct, hc⟩ := ih (n / 10) (by omega) (by omega)
      rw [Text.ofNat] at hct
      exact ⟨c, t ++ [(n % 10).digitChar], by rw [hct, List.cons_append], hc⟩

/-- Digits never make a number smaller. -/
theorem le_foldl_digits (t : Text) (n : Nat) :
    n ≤ t.foldl (fun n c => 10 * n + (Text.digit? c).getD 0) n := by
  induction t generalizing n with
  | nil => exact Nat.le_refl n
  | cons c t ih =>
    rw [List.foldl_cons]
    exact Nat.le_trans (by omega) (ih _)

/-- Digits are appended as long as the number stays within the limit. -/
theorem absorb_of_le {limit : Nat} {t : Text} {n : Nat}
    (h : t.foldl (fun n c => 10 * n + (Text.digit? c).getD 0) n ≤ limit) :
    absorb limit n t = (t.foldl (fun n c => 10 * n + (Text.digit? c).getD 0) n, 0) := by
  induction t generalizing n with
  | nil => rfl
  | cons c t ih =>
    rw [List.foldl_cons] at h ⊢
    rw [absorb, if_pos (Nat.le_trans (le_foldl_digits t _) h), ih h]

/-- A natural number of 64 bits is read from its digits. -/
theorem number_ofNat {negative : Bool} {n : Nat} (hn : n ≤ maxWhole) :
    number negative (Text.ofNat n) = fractionPart.wholePart negative n 0 true [] := by
  rcases Nat.eq_zero_or_pos n with rfl | hpos
  · rfl
  · obtain ⟨c, t, hct, hc⟩ := ofNat_of_ne_zero (Nat.pos_iff_ne_zero.1 hpos)
    have hdigits : ∀ d ∈ c :: t, Text.isDigit d = true := fun d hd =>
      isDigit_of_mem_ofNat (hct ▸ hd)
    have hvalue := digitsValue_ofNat n
    rw [Text.digitsValue, hct] at hvalue
    rw [hct]
    simp only [number]
    rw [if_neg hc, if_pos (hdigits c List.mem_cons_self), List.takeWhile_eq_self_iff.2 hdigits,
      List.dropWhile_eq_nil_iff.2 hdigits]
    rw [absorb_of_le (by rwa [hvalue]), hvalue]
    rfl

/-- **Whole numbers are read back.** -/
theorem simpleValue_ofInt {n : Int} (hlow : -(2 : Int) ^ 63 ≤ n) (hhigh : n < 2 ^ 64) :
    simpleValue (Text.ofInt n) = .ok (.num (.int n), []) := by
  cases n with
  | ofNat m =>
    have hm : m ≤ maxWhole := by
      rw [maxWhole]
      simp only [Int.ofNat_eq_natCast] at hhigh
      omega
    obtain ⟨c, t, hct⟩ := List.exists_cons_of_ne_nil (Nat.toDigits_ne_nil (n := m) (b := 10))
    have hc : Text.isDigit c = true := isDigit_of_mem_ofNat (n := m) (by simp [Text.ofNat, hct])
    have hnumber : number false (Text.ofNat m) = .ok (.int m, []) := number_ofNat hm
    rw [Text.ofNat, hct] at hnumber
    rw [Text.ofInt, Text.ofNat, hct, simpleValue_digit hc, hnumber]
    rfl
  | negSucc m =>
    have hm : m + 1 ≤ 9223372036854775808 := by
      rw [Int.negSucc_eq] at hlow
      omega
    -- a significand that is not zero keeps the number from being read as a double
    have hwhole : fractionPart.wholePart true (m + 1) 0 true [] = .ok (.int (.negSucc m), []) := by
      show (if _ then Except.ok (JsonNumber.int (-(m + 1 : Nat)), []) else _) = _
      rw [if_pos (by simpa using hm)]
      rfl
    rw [Text.ofInt, simpleValue_minus, number_ofNat (Nat.le_trans hm (by decide)), hwhole]
    rfl

end Rampart.Json
