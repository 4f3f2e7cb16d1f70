import Mathlib
import Rampart.Audit.Mailbox

/-!
# Mailboxes never overflow and keep the order

The slots that are taken, those that were handed to a sender included, are never more than there
are.  A message goes in behind all others and comes out when it is the first, and a message that had
to wait for room is one that its sender was ready to wait with.

* `Mailbox.Sound` : the invariant of a mailbox with a given number of slots;
* `Mailbox.offer_eq_some_iff`, `Mailbox.Sound.offer_eq_none_iff` : a message is refused exactly when
  all slots are taken;
* `Mailbox.Sound.send`, `Mailbox.Sound.deliver`, `Mailbox.Sound.take` : what the operations keep.
-/

namespace Rampart.Audit.Mailbox

variable {α : Type} {n : Nat} {Patient Patient' : α → Prop} {b b' : Mailbox α} {m : α}

/-- A mailbox with `n` slots, of which no more are taken, and with only such messages on their way
that may wait. -/
structure Sound (n : Nat) (Patient : α → Prop) (b : Mailbox α) : Prop where
  capacity_eq : b.capacity = n
  taken_le : b.taken ≤ n
  patient : ∀ m ∈ b.granted ++ b.waiting, Patient m

theorem sound_new (size : Nat) (Patient : α → Prop) : (new size).Sound (max size 1) Patient where
  capacity_eq := rfl
  taken_le := Nat.zero_le _
  patient := by simp [new]

theorem Sound.mono (h : b.Sound n Patient) (hP : ∀ m, Patient m → Patient' m) :
    b.Sound n Patient' where
  capacity_eq := h.capacity_eq
  taken_le := h.taken_le
  patient m hm := hP m (h.patient m hm)

/-! ## Putting a message in -/

/-- A message that finds room goes in behind all others. -/
theorem offer_eq_some_iff :
    b.offer m = some b' ↔
      b.taken < b.capacity ∧ b' = { b with messages := b.messages ++ [m] } := by
  simp [offer, hasRoom, eq_comm]

/-- A message is refused exactly when all slots are taken. -/
theorem Sound.offer_eq_none_iff (h : b.Sound n Patient) : b.offer m = none ↔ b.taken = n := by
  have hle := h.taken_le
  simp only [offer, hasRoom, h.capacity_eq, decide_eq_true_eq, ite_eq_right_iff, reduceCtorEq,
    imp_false]
  omega

theorem Sound.offer (h : b.Sound n Patient) (hb : b.offer m = some b') : b'.Sound n Patient := by
  obtain ⟨hroom, rfl⟩ := offer_eq_some_iff.1 hb
  refine ⟨h.capacity_eq, ?_, h.patient⟩
  rw [h.capacity_eq] at hroom
  simp only [taken, List.length_append, List.length_singleton] at hroom ⊢
  omega

/-- A message that may wait goes in behind all others or stands in line. -/
theorem Sound.send (h : b.Sound n Patient) (hm : Patient m) :
    (b.send m).Sound n Patient ∧
      ∃ new, (∀ x ∈ new, Patient x) ∧ (b.send m).messages = b.messages ++ new := by
  rw [Mailbox.send]
  cases hb : b.offer m with
  | some b' =>
    refine ⟨h.offer hb, [m], ?_, ?_⟩
    · simpa using hm
    · rw [(offer_eq_some_iff.1 hb).2]
      rfl
  | none =>
    refine ⟨⟨h.capacity_eq, h.taken_le, ?_⟩, [], by simp, by simp⟩
    intro x hx
    rw [Option.getD_none, ← List.append_assoc, List.mem_append, List.mem_singleton] at hx
    rcases hx with hx | rfl
    · exact h.patient x hx
    · exact hm

/-- A sender with a slot puts its message in behind all others. -/
theorem Sound.deliver (h : b.Sound n Patient) (i : Nat) :
    (b.deliver i).Sound n Patient ∧
      ∃ new, (∀ x ∈ new, Patient x) ∧ (b.deliver i).messages = b.messages ++ new := by
  rw [Mailbox.deliver]
  split
  · rename_i m hget
    have hm : m ∈ b.granted := List.mem_of_getElem? hget
    have hlt : i < b.granted.length := (List.getElem?_eq_some_iff.1 hget).1
    refine ⟨⟨h.capacity_eq, ?_, ?_⟩, [m], ?_, rfl⟩
    · -- the slot stays taken, now by the message itself
      have hle := h.taken_le
      simp only [taken, List.length_append, List.length_singleton, List.length_eraseIdx_of_lt hlt]
        at hle ⊢
      omega
    · intro x hx
      refine h.patient x ?_
      rw [List.mem_append] at hx ⊢
      exact hx.imp_left List.mem_of_mem_eraseIdx
    · simpa using h.patient m (List.mem_append_left _ hm)
  · exact ⟨h, [], by simp, by simp⟩

/-! ## Taking a message out -/

/-- The oldest message comes out, and its slot is free or goes to the first in line. -/
theorem Sound.take (h : b.Sound n Patient) (hb : b.take = some (m, b')) :
    b'.Sound n Patient ∧ b.messages = m :: b'.messages := by
  have hle := h.taken_le
  have hpatient := h.patient
  rw [Mailbox.take] at hb
  split at hb
  · cases hb
  · rename_i m' messages hmessages hwaiting
    cases hb
    refine ⟨⟨h.capacity_eq, ?_, hpatient⟩, hmessages⟩
    simp only [taken, hmessages, List.length_cons] at hle ⊢
    omega
  · rename_i m' messages w waiting hmessages hwaiting
    cases hb
    refine ⟨⟨h.capacity_eq, ?_, ?_⟩, hmessages⟩
    · simp only [taken, hmessages, List.length_cons, List.length_append, List.length_nil] at hle ⊢
      omega
    · intro x hx
      refine hpatient x ?_
      rw [hwaiting]
      simpa using hx

end Rampart.Audit.Mailbox
