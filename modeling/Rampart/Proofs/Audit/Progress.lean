import Mathlib
import Rampart.Audit.Logger
import Rampart.Proofs.File.Appending

/-!
# How far the handler of the audit log has got

The handler takes messages out of the mailbox one by one.  The events among those that it has taken
are in the log file, or their lines are in flight; there is at most one of the latter.  A flush that
was taken has no line in flight behind it, so everything in front of it is in the file.

* `LogFile.Holds` : how a log file stands that takes what is written to it, with what landing,
  flushing, writing and forcing to disk make of it;
* `Progress.Sound` : the account of what the handler has taken, kept by each message.
-/

namespace Rampart.Audit

open Rampart.File (Bytes Disk)

/-! ## Events among messages, and their lines -/

/-- The event that a message brings. -/
def Message.event? : Message → Option Event
  | .event e => some e
  | .flush _ => none

/-- The events among messages, in order. -/
def events (ms : List Message) : List Event := ms.filterMap Message.event?

@[simp] theorem events_append (ms ms' : List Message) :
    events (ms ++ ms') = events ms ++ events ms' :=
  List.filterMap_append

@[simp] theorem events_event (e : Event) : events [.event e] = [e] := rfl

@[simp] theorem events_flush (t : Nat) : events [.flush t] = [] := rfl

/-- There are no events among flushes. -/
theorem events_eq_nil {ms : List Message} (h : ∀ m ∈ ms, ∃ t, m = .flush t) : events ms = [] := by
  rw [events, List.filterMap_eq_nil_iff]
  intro m hm
  obtain ⟨t, rfl⟩ := h m hm
  rfl

/-- The lines of events, one after the other, as they stand in the log file. -/
def lines (es : List Event) : Bytes := es.flatMap fun e => e.line.toUtf8

@[simp] theorem lines_nil : lines [] = [] := rfl

@[simp] theorem lines_singleton (e : Event) : lines [e] = e.line.toUtf8 := List.flatMap_singleton ..

@[simp] theorem lines_append (es es' : List Event) : lines (es ++ es') = lines es ++ lines es' :=
  List.flatMap_append

/-! ## The log file -/

namespace LogFile

variable {old : Bytes} {place : List Text} {file : LogFile} {d : Disk} {landed flying : List Event}

/-- The log file stands at a place where writes succeed.  Behind what it held of old it has the
lines of the events that landed, and those that are flying are in flight. -/
structure Holds (old : Bytes) (place : List Text) (file : LogFile) (d : Disk)
    (landed flying : List Event) : Prop where
  file_eq : file = { place, inFlight := lines flying }
  read_eq : d.root.read place = .ok (old ++ lines landed)
  writable : place ≠ fullDevice

/-- What is in flight reaches the disk. -/
theorem Holds.land (h : Holds old place file d landed flying) :
    Holds old place (file.land d).1 (file.land d).2 (landed ++ flying) [] := by
  obtain ⟨rfl, hread, hplace⟩ := h
  rw [LogFile.land]
  split
  · rename_i hnone
    have hnone : lines flying = [] := hnone
    exact ⟨by rw [hnone]; rfl, by rw [hread, lines_append, hnone, List.append_nil], hplace⟩
  · obtain ⟨d', happend, hread'⟩ := Disk.exists_append (lines flying) hread
    rw [store, if_neg hplace, happend]
    exact ⟨rfl, by rw [hread', lines_append, List.append_assoc], hplace⟩

/-- A flush has nothing to complain of, and afterwards nothing is in flight. -/
theorem Holds.flush (h : Holds old place file d landed flying) :
    (file.flush d).2.2 = .ok () ∧
      Holds old place (file.flush d).1 (file.flush d).2.1 (landed ++ flying) [] := by
  have hland := h.land
  have huntold : (file.land d).1.untold = none := by rw [hland.file_eq]
  have hflush : file.flush d = ((file.land d).1, (file.land d).2, .ok ()) := by
    rw [LogFile.flush]
    simp only [huntold]
  rw [hflush]
  exact ⟨rfl, hland⟩

/-- A line is taken once the ones before it have landed. -/
theorem Holds.write (h : Holds old place file d landed flying) (e : Event) :
    Holds old place (file.write d e.line).1 (file.write d e.line).2.1 (landed ++ flying) [e] := by
  obtain ⟨hok, hfile, hread, hplace⟩ := h.flush
  have hwrite : file.write d e.line
      = ({ (file.flush d).1 with inFlight := e.line.toUtf8 }, (file.flush d).2.1, .ok ()) := by
    rw [LogFile.write]
    generalize file.flush d = flushed at hok
    obtain ⟨file', d', result⟩ := flushed
    cases hok
    rfl
  rw [hwrite]
  refine ⟨?_, hread, hplace⟩
  rw [hfile, lines_singleton]

/-- Forcing the file to disk lets all land. -/
theorem Holds.sync (h : Holds old place file d landed flying) :
    Holds old place (file.sync d).1 (file.sync d).2 (landed ++ flying) [] := by
  have hland := h.land
  refine ⟨?_, hland.read_eq, hland.writable⟩
  show ({ (file.land d).1 with untold := (file.land d).1.untold.map remembered } : LogFile) = _
  rw [hland.file_eq]
  rfl

/-- A file that was just opened holds what it held of old. -/
theorem holds_openAt {path : Text} {opened : Disk} (h : openAt d path = .ok (file, opened))
    (hplace : file.place ≠ fullDevice) :
    Holds (d.content file.place) file.place file opened [] [] := by
  rw [openAt, bind_eq_ok_iff] at h
  obtain ⟨⟨place, d'⟩, hopen, h⟩ := h
  cases h
  refine ⟨rfl, ?_, hplace⟩
  rw [Disk.read_of_openToAppend hopen, lines_nil, List.append_nil]

end LogFile

/-! ## How far the handler has got -/

/-- How far the handler has got. -/
structure Progress where
  /-- The messages that were taken out of the mailbox, in order. -/
  handled : List Message := []
  /-- The events whose lines are in the file. -/
  landed : List Event := []
  /-- The events whose lines are in flight. -/
  flying : List Event := []

namespace Progress

/-- What is in flight lands. -/
def land (p : Progress) : Progress := { p with landed := p.landed ++ p.flying, flying := [] }

/-- The line of an event is taken, once the ones before it have landed. -/
def write (p : Progress) (e : Event) : Progress :=
  { p.land with handled := p.handled ++ [.event e], flying := [e] }

/-- A message is handled.  The line of a severe event lands at once, and so does everything when a
flush asks for it. -/
def handle (p : Progress) : Message → Progress
  | .event e => if e.incident.raisesAlert then (p.write e).land else p.write e
  | .flush t => { p.land with handled := p.handled ++ [.flush t] }

@[simp] theorem handled_handle (p : Progress) (m : Message) :
    (p.handle m).handled = p.handled ++ [m] := by
  cases m with
  | event e =>
    rw [handle]
    split <;> rfl
  | flush t => rfl

/-- All events that were taken are in the file or, one at most, in flight; and those in front of a
flush that was taken are in the file. -/
structure Sound (p : Progress) : Prop where
  events_handled : events p.handled = p.landed ++ p.flying
  flying_le : p.flying.length ≤ 1
  landed_of_flush : ∀ ms t, ms ++ [.flush t] <+: p.handled → events ms <+: p.landed

theorem sound_start : Sound {} where
  events_handled := rfl
  flying_le := Nat.zero_le _
  landed_of_flush ms t h := by simp at h

variable {p : Progress}

theorem Sound.land (h : p.Sound) : p.land.Sound where
  events_handled := by simp [Progress.land, h.events_handled]
  flying_le := Nat.zero_le _
  landed_of_flush ms t hms := (h.landed_of_flush ms t hms).trans (List.prefix_append ..)

theorem Sound.write (h : p.Sound) (e : Event) : (p.write e).Sound where
  events_handled := by simp [Progress.write, Progress.land, h.events_handled]
  flying_le := Nat.le_refl _
  landed_of_flush ms t hms := by
    rcases List.prefix_concat_iff.1 hms with heq | hms
    · cases (List.append_inj' heq rfl).2
    · exact h.land.landed_of_flush ms t hms

theorem Sound.handle (h : p.Sound) (m : Message) : (p.handle m).Sound := by
  cases m with
  | event e =>
    rw [Progress.handle]
    split
    · exact (h.write e).land
    · exact h.write e
  | flush ticket =>
    refine ⟨by simp [Progress.handle, Progress.land, h.events_handled], Nat.zero_le _,
      fun ms t hms => ?_⟩
    rcases List.prefix_concat_iff.1 hms with heq | hms
    · -- everything in front of this flush has just landed
      rw [(List.append_inj' heq rfl).1, h.events_handled]
      exact List.prefix_refl _
    · exact h.land.landed_of_flush ms t hms

end Progress

end Rampart.Audit
