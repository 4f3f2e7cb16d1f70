import Mathlib
import Rampart.Audit.Timestamp
import Rampart.Proofs.Json.RoundTrip

/-!
# Timestamps are read back

A timestamp is written in one way, with two digits for each field, a sign in front of a year that
has no four digits, and a fraction of three, six or nine digits.  Each of these is read back in
front of what follows it, so the whole is.

* `Timestamp.number_append` : a number ends with its last digit;
* `Timestamp.year_writeYear`, `Timestamp.field_padded`, `Timestamp.fraction_writeFraction` : the
  parts are read back;
* `Timestamp.parse_write` : timestamps are read back.
-/

namespace Rampart

/-! ## Digits with zeros in front -/

namespace Text

/-- Zeros in front are digits as well. -/
theorem isDigit_of_mem_padded {width n : Nat} {c : Char} (h : c ∈ padded width n) :
    isDigit c = true := by
  rcases List.mem_append.1 h with h | h
  · rw [List.eq_of_mem_replicate h]
    rfl
  · exact Json.isDigit_of_mem_ofNat h

/-- Zeros in front do not change the number. -/
theorem digitsValue_padded (width n : Nat) : digitsValue (padded width n) = n := by
  have hzeros : ∀ k : Nat, (List.replicate k '0').foldl
      (fun n c => 10 * n + (digit? c).getD 0) 0 = 0 := by
    intro k
    induction k with
    | zero => rfl
    | succ k ih =>
      rw [List.replicate_succ, List.foldl_cons]
      exact ih
  have hdigits := Json.digitsValue_ofNat n
  rw [digitsValue] at hdigits
  rw [digitsValue, padded, List.foldl_append, hzeros, hdigits]

theorem padded_ne_nil (width n : Nat) : padded width n ≠ [] :=
  List.append_ne_nil_of_right_ne_nil _ Nat.toDigits_ne_nil

/-- A number that fits is written with as many digits as asked for. -/
theorem length_padded {width n : Nat} (hwidth : 0 < width) (hn : n < 10 ^ width) :
    (padded width n).length = width := by
  have hle : (ofNat n).length ≤ width := Nat.toDigits_length 10 n width hwidth hn
  rw [padded, List.length_append, List.length_replicate]
  omega

/-- A number with zeros in front starts with a digit. -/
theorem exists_padded_eq_cons (width n : Nat) :
    ∃ c t, padded width n = c :: t ∧ isDigit c = true := by
  obtain ⟨c, t, h⟩ := List.exists_cons_of_ne_nil (padded_ne_nil width n)
  refine ⟨c, t, h, ?_⟩
  apply isDigit_of_mem_padded
  rw [h]
  exact List.mem_cons_self

end Text

namespace Audit.Timestamp

open Text (padded)

/-! ## The parts of a timestamp -/

/-- Nothing is skipped in front of a character that is not blank. -/
theorem skipBlanks_cons {c : Char} (hc : Text.isBlankChar c = false) (t : Text) :
    skipBlanks (c :: t) = c :: t :=
  List.dropWhile_cons_of_neg (by rw [hc]; exact Bool.false_ne_true)

/-- Nothing is skipped in front of digits. -/
theorem skipBlanks_padded (width n : Nat) (rest : Text) :
    skipBlanks (padded width n ++ rest) = padded width n ++ rest := by
  obtain ⟨c, t, h, hc⟩ := Text.exists_padded_eq_cons width n
  rw [h, List.cons_append, skipBlanks_cons (Json.opens_of_isDigit hc).1]

/-- A number ends with its last digit, be it that no more are wanted or that no more follow. -/
theorem number_append {most : Nat} {digits rest : Text} (hne : digits ≠ [])
    (hdigits : ∀ c ∈ digits, Text.isDigit c = true) (hle : digits.length ≤ most)
    (hrest : digits.length = most ∨ ∀ c ∈ rest.head?, Text.isDigit c = false) :
    number most (digits ++ rest) = .ok (Text.digitsValue digits, rest) := by
  -- nothing of the rest is taken: no more is wanted, or the rest does not start with a digit
  have hnone : (rest.take (most - digits.length)).takeWhile Text.isDigit = [] := by
    rcases hrest with heq | hrest
    · rw [heq, Nat.sub_self, List.take_zero, List.takeWhile_nil]
    · cases rest with
      | nil => rw [List.take_nil, List.takeWhile_nil]
      | cons c rest =>
        cases most - digits.length with
        | zero => rfl
        | succ k =>
          rw [List.take_succ_cons, List.takeWhile_cons_of_neg]
          rw [hrest c rfl]
          exact Bool.false_ne_true
  have htake : ((digits ++ rest).take most).takeWhile Text.isDigit = digits := by
    rw [List.take_append, List.take_of_length_le hle, List.takeWhile_append_of_pos hdigits, hnone,
      List.append_nil]
  have hsome : (digits ++ rest).isEmpty = false := by simp [hne]
  simp only [number, htake, hsome, List.drop_left]
  simp [hne]

/-- A number with zeros in front is read back if it fits and no more digits are wanted or follow. -/
theorem number_padded {width most n : Nat} {rest : Text}
    (hle : (padded width n).length ≤ most)
    (hrest : (padded width n).length = most ∨ ∀ c ∈ rest.head?, Text.isDigit c = false) :
    number most (padded width n ++ rest) = .ok (n, rest) := by
  have hnumber := number_append (Text.padded_ne_nil width n)
    (fun c hc => Text.isDigit_of_mem_padded hc) hle hrest
  rw [Text.digitsValue_padded] at hnumber
  exact hnumber

/-- A field of two digits is read back. -/
theorem field_padded {low high n : Nat} (hlow : low ≤ n) (hhigh : n ≤ high) (hn : n < 100)
    (rest : Text) : field low high (padded 2 n ++ rest) = .ok (n, rest) := by
  have hlength : (padded 2 n).length = 2 := Text.length_padded (by decide) hn
  have hnumber : number 2 (padded 2 n ++ rest) = .ok (n, rest) :=
    number_padded (Nat.le_of_eq hlength) (Or.inl hlength)
  rw [field, skipBlanks_padded, hnumber]
  exact if_pos ⟨hlow, hhigh⟩

/-- A mark is taken where it stands. -/
theorem mark_cons {c : Char} (hc : Text.isBlankChar c = false) (rest : Text) :
    mark c (c :: rest) = .ok rest := by
  rw [mark, skipBlanks_cons hc]
  exact if_pos rfl

/-- A year behind its sign is read up to its last digit. -/
theorem number_signedYear (n : Nat) {rest : Text}
    (hrest : ∀ c ∈ rest.head?, Text.isDigit c = false) :
    number (padded 4 n ++ rest).length (padded 4 n ++ rest) = .ok (n, rest) := by
  apply number_padded
  · rw [List.length_append]
    omega
  · exact Or.inr hrest

/-- A year is read back, with its sign or without. -/
theorem year_writeYear {y : Int} (hy : -262143 ≤ y ∧ y ≤ 262142) {rest : Text}
    (hrest : ∀ c ∈ rest.head?, Text.isDigit c = false) :
    year (writeYear y ++ rest) = .ok (y, rest) := by
  unfold writeYear
  split
  · rename_i hfour
    have hlength : (padded 4 y.toNat).length = 4 := Text.length_padded (by decide) (by omega)
    have hnumber : number 4 (padded 4 y.toNat ++ rest) = .ok (y.toNat, rest) :=
      number_padded (Nat.le_of_eq hlength) (Or.inl hlength)
    -- a digit is neither of the two signs
    obtain ⟨c, t, hct, hc⟩ := Text.exists_padded_eq_cons 4 y.toNat
    have hskip := skipBlanks_padded 4 y.toNat rest
    rw [hct, List.cons_append] at hskip hnumber ⊢
    rw [year, hskip]
    split
    · rename_i heq
      obtain ⟨rfl, -⟩ := List.cons.inj heq
      cases hc
    · rename_i heq
      obtain ⟨rfl, -⟩ := List.cons.inj heq
      cases hc
    · rw [hnumber]
      show Except.ok ((y.toNat : Int), rest) = _
      rw [Int.toNat_of_nonneg hfour.1]
  · rename_i hsigned
    have hnumber := number_signedYear y.natAbs hrest
    rw [List.cons_append]
    by_cases hneg : y < 0
    · rw [if_pos hneg, year, skipBlanks_cons (by decide)]
      show (number _ _ >>= _) = _
      rw [hnumber]
      show (if y.natAbs ≤ 2147483648 then Except.ok (-(y.natAbs : Int), rest) else _) = _
      rw [if_pos (by omega), Int.ofNat_natAbs_of_nonpos (by omega), neg_neg]
    · rw [if_neg hneg, year, skipBlanks_cons (by decide)]
      show (number _ _ >>= _) = _
      rw [hnumber]
      show (if y.natAbs < 2147483648 then Except.ok ((y.natAbs : Int), rest) else _) = _
      rw [if_pos (by omega), Int.natAbs_of_nonneg (by omega)]

/-- A fraction of up to nine digits is read as nanoseconds. -/
theorem fraction_padded {width n : Nat} (hwidth : 0 < width) (hle : width ≤ 9)
    (hn : n < 10 ^ width) :
    fraction ('.' :: padded width n ++ ['Z']) = .ok (n * 10 ^ (9 - width), ['Z']) := by
  have hlength : (padded width n).length = width := Text.length_padded hwidth hn
  have hnumber : number 9 (padded width n ++ ['Z']) = .ok (n, ['Z']) := by
    apply number_padded
    · rw [hlength]
      exact hle
    · right
      intro c hc
      cases hc
      rfl
  have hcount : (padded width n ++ ['Z']).length - ['Z'].length = width := by
    rw [List.length_append, hlength]
    omega
  rw [List.cons_append, fraction]
  show (number 9 _ >>= _) = _
  rw [hnumber]
  show Except.ok (n * Nat.pow 10 (9 - ((padded width n ++ ['Z']).length - ['Z'].length)), _) = _
  rw [hcount]
  rfl

/-- The fraction of a second is read back, whether there is one or not. -/
theorem fraction_writeFraction {nano : Nat} (h : nano < 1000000000) :
    fraction (writeFraction nano ++ ['Z']) = .ok (nano, ['Z']) := by
  unfold writeFraction
  -- the zeros that were left out at the end come back as a power of ten
  split_ifs with hzero hmilli hmicro
  · rw [hzero]
    rfl
  · rw [fraction_padded (by decide) (by decide) (by omega)]
    have hnano : nano / 1000000 * 10 ^ (9 - 3) = nano := by omega
    rw [hnano]
  · rw [fraction_padded (by decide) (by decide) (by omega)]
    have hnano : nano / 1000 * 10 ^ (9 - 6) = nano := by omega
    rw [hnano]
  · rw [fraction_padded (by decide) (by decide) (by omega)]
    have hnano : nano * 10 ^ (9 - 9) = nano := by omega
    rw [hnano]

/-! ## The whole -/

/-- The numbers of a timestamp, in UTC, make up the timestamp. -/
theorem assemble_self (t : Timestamp) :
    assemble t.date.year t.date.month t.date.day t.hour t.minute t.second t.nano 0 = .ok t := by
  have hhour := t.hour_lt
  have hminute := t.minute_lt
  have hdays : ((t.hour : Int) * 60 + t.minute - 0).fdiv 1440 = 0 := by
    rw [Int.fdiv_eq_ediv_of_nonneg _ (by decide)]
    omega
  have hminutes : (((t.hour : Int) * 60 + t.minute - 0).fmod 1440).toNat
      = t.hour * 60 + t.minute := by
    rw [Int.fmod_eq_emod_of_nonneg _ (by decide)]
    omega
  have hh : (t.hour * 60 + t.minute) / 60 = t.hour := by omega
  have hm : (t.hour * 60 + t.minute) % 60 = t.minute := by omega
  simp only [assemble, Date.of?_self, hdays, hminutes, hh, hm, if_pos]
  rw [if_neg (by decide), dif_pos ⟨hhour, t.second_le, t.nano_lt⟩]
  rfl

/-- The text of a timestamp, from the left. -/
theorem write_eq (t : Timestamp) :
    t.write = writeYear t.date.year ++ '-' :: (padded 2 t.date.month ++ '-' ::
      (padded 2 t.date.day ++ 'T' :: (padded 2 t.hour ++ ':' :: (padded 2 t.minute ++ ':' ::
        (padded 2 t.second ++ (writeFraction t.nano ++ ['Z'])))))) := by
  simp [write]

/-- No month is longer than 31 days. -/
theorem daysIn_le (year : Int) (month : Nat) : daysIn year month ≤ 31 := by
  unfold daysIn
  split_ifs <;> decide

/-- **Timestamps are read back.** -/
theorem parse_write (t : Timestamp) : parse t.write = .ok t := by
  have hmonth := t.date.month_mem
  have hday := t.date.day_mem
  have hdays := daysIn_le t.date.year t.date.month
  have hhour := t.hour_lt
  have hminute := t.minute_lt
  have hsecond := t.second_le
  rw [write_eq, parse]
  -- from the left, each part in front of all that follows it
  refine bind_eq_ok_iff.2 ⟨_, year_writeYear t.date.year_mem (by rintro c ⟨⟩; rfl), ?_⟩
  refine bind_eq_ok_iff.2 ⟨_, mark_cons (by decide) _, ?_⟩
  refine bind_eq_ok_iff.2 ⟨_, field_padded hmonth.1 hmonth.2 (by omega) _, ?_⟩
  refine bind_eq_ok_iff.2 ⟨_, mark_cons (by decide) _, ?_⟩
  refine bind_eq_ok_iff.2 ⟨_, field_padded hday.1 (by omega) (by omega) _, ?_⟩
  -- the letter between date and time
  refine bind_eq_ok_iff.2 ⟨_, rfl, ?_⟩
  refine bind_eq_ok_iff.2 ⟨_, field_padded (Nat.zero_le _) (by omega) (by omega) _, ?_⟩
  refine bind_eq_ok_iff.2 ⟨_, mark_cons (by decide) _, ?_⟩
  refine bind_eq_ok_iff.2 ⟨_, field_padded (Nat.zero_le _) (by omega) (by omega) _, ?_⟩
  refine bind_eq_ok_iff.2 ⟨_, mark_cons (by decide) _, ?_⟩
  refine bind_eq_ok_iff.2 ⟨_, field_padded (Nat.zero_le _) hsecond (by omega) _, ?_⟩
  refine bind_eq_ok_iff.2 ⟨_, fraction_writeFraction t.nano_lt, ?_⟩
  exact assemble_self t

end Audit.Timestamp

end Rampart
