import Mathlib
import Rampart.Audit.Logger
import Rampart.Proofs.Audit.Mailbox
import Rampart.Proofs.Audit.Progress

/-!
# The audit log loses nothing silently

As long as there are clients and a handler, and the log file can be opened and takes what is written
to it, each event that is logged goes to the log file, once and in the order of arrival, or is put
on record as dropped.  The messages that the handler has taken out of the mailbox and those that are
still in it make up the history of the mailbox, which only grows at its end.  Hence whoever gets an
answer to a flush finds all that was accepted before in the file.

* `Logger.verdicts` : what becomes of each event that is logged;
* `Logger.Tracks`, `Logger.Tracks.step`, `Logger.Tracks.run` : the account of a run, kept by each
  action;
* `Logger.nothing_lost_silently` : the resulting statement about every run.
-/
namespace Rampart.Audit

open Rampart.File (Bytes Disk)

/-! ## Verdicts -/

/-- What became of an event that was logged. -/
structure Verdict where
  event : Event
  accepted : Bool

/-- Whether there are clients and a handler after an action. -/
def Action.keepsOpen : Action → Bool
  | .stop | .finish => false
  | _ => true

/-- The event that an action logs. -/
def Action.logged? : Action → Option Event
  | .log e => some e
  | _ => none

namespace Logger

/-- The events in the mailbox. -/
def queued (l : Logger) : List Event := events l.mailbox.messages

/-- What the log file has in flight. -/
def inFlight (l : Logger) : Bytes :=
  match l.handler with
  | .working (some file) => file.inFlight
  | _ => []

/-- The verdicts on the events that are logged in the course of a run. -/
def verdicts (now : Text) : Logger → List Action → List Verdict
  | _, [] => []
  | l, a :: rest =>
    (a.logged?.toList.map fun e => ⟨e, l.accepts⟩) ++ verdicts now (l.step now a).1 rest

/-- The events that are accepted in the course of a run, in order. -/
def accepted (now : Text) (l : Logger) (acts : List Action) : List Event :=
  ((l.verdicts now acts).filter fun v => v.accepted).map Verdict.event

/-- The events that are dropped in the course of a run, in order. -/
def dropped (now : Text) (l : Logger) (acts : List Action) : List Event :=
  ((l.verdicts now acts).filter fun v => !v.accepted).map Verdict.event

/-- How far the handler gets by one action. -/
def advance (l : Logger) (p : Progress) : Action → Progress
  | .work =>
    match l.handler, l.mailbox.take with
    | .working _, some (m, _) => p.handle m
    | _, _ => p
  | .land => p.land
  | _ => p

/-- How far the handler gets in the course of a run. -/
def progress (now : Text) : Logger → Progress → List Action → Progress
  | _, p, [] => p
  | l, p, a :: rest => progress now (l.step now a).1 (l.advance p a) rest

/-! ## Runs and their verdicts -/

theorem run_cons (now : Text) (l : Logger) (a : Action) (rest : List Action) :
    l.run now (a :: rest) = (((l.step now a).1.run now rest).1,
      (l.step now a).2 ++ ((l.step now a).1.run now rest).2) := rfl

/-- A run can be cut in two. -/
theorem run_append (now : Text) (l : Logger) (acts more : List Action) :
    (l.run now (acts ++ more)).1 = ((l.run now acts).1.run now more).1 := by
  induction acts generalizing l with
  | nil => rfl
  | cons a rest ih => exact ih _

theorem progress_append (now : Text) (l : Logger) (p : Progress) (acts more : List Action) :
    l.progress now p (acts ++ more)
      = (l.run now acts).1.progress now (l.progress now p acts) more := by
  induction acts generalizing l p with
  | nil => rfl
  | cons a rest ih => exact ih _ _

theorem accepted_cons (now : Text) (l : Logger) (a : Action) (rest : List Action) :
    l.accepted now (a :: rest) = l.accepted now [a] ++ (l.step now a).1.accepted now rest := by
  simp [accepted, verdicts]

theorem dropped_cons (now : Text) (l : Logger) (a : Action) (rest : List Action) :
    l.dropped now (a :: rest) = l.dropped now [a] ++ (l.step now a).1.dropped now rest := by
  simp [dropped, verdicts]

theorem accepted_log (now : Text) (l : Logger) (e : Event) :
    l.accepted now [.log e] = if l.accepts then [e] else [] := by
  rw [accepted, verdicts]
  cases l.accepts <;> rfl

theorem dropped_log (now : Text) (l : Logger) (e : Event) :
    l.dropped now [.log e] = if l.accepts then [] else [e] := by
  rw [dropped, verdicts]
  cases l.accepts <;> rfl

/-- Each event that is logged gets one verdict. -/
theorem event_verdicts (now : Text) (l : Logger) (acts : List Action) :
    (l.verdicts now acts).map Verdict.event = acts.filterMap Action.logged? := by
  induction acts generalizing l with
  | nil => rfl
  | cons a rest ih =>
    rw [verdicts, List.map_append, ih, List.filterMap_cons]
    cases a.logged? <;> rfl

/-! ## The account of a run -/

/-- The handler is at work with a log file that stands as told. -/
def Writes (old : Bytes) (place : List Text) (l : Logger) (p : Progress) : Prop :=
  ∃ file, l.handler = .working (some file) ∧ file.Holds old place l.disk p.landed p.flying

variable {old : Bytes} {place : List Text} {file : LogFile} {l : Logger} {p : Progress}

/-- An event goes to the log file, and a severe one is forced to disk. -/
theorem handle_event (l : Logger) (file : LogFile) (e : Event) :
    (l.handle (some file) (.event e)).1 = l.withFile (if e.incident.raisesAlert
      then (file.write l.disk e.line).1.sync (file.write l.disk e.line).2.1
      else ((file.write l.disk e.line).1, (file.write l.disk e.line).2.1)) := rfl

/-- Handling a message keeps the log file in order. -/
theorem writes_handle (h : file.Holds old place l.disk p.landed p.flying) (m : Message) :
    (l.handle (some file) m).1.Writes old place (p.handle m) := by
  cases m with
  | event e =>
    have hwrite := h.write e
    rw [handle_event, Progress.handle]
    refine ⟨_, rfl, ?_⟩
    split
    · exact hwrite.sync
    · exact hwrite
  | flush t =>
    obtain ⟨-, hflush⟩ := h.flush
    exact ⟨_, rfl, hflush⟩

/-- A message that is a flush somebody asked for. -/
def Asked (acts : List Action) (m : Message) : Prop := ∃ t, m = .flush t ∧ .flush t ∈ acts

theorem Asked.mono {acts : List Action} {m : Message} (h : Asked acts m) (more : List Action) :
    Asked (acts ++ more) m := by
  obtain ⟨t, rfl, ht⟩ := h
  exact ⟨t, rfl, List.mem_append_left _ ht⟩

/-- The account of a run that consisted of `acts`.  Everything that was ever put into the mailbox
is, in this order, what the handler took out and what is still in. -/
structure Tracks (config : Config) (start : Disk) (place : List Text) (acts : List Action)
    (history : List Message) (l : Logger) (p : Progress) : Prop where
  config_eq : l.config = config
  mailbox : l.mailbox.Sound (max config.bufferSize 1) (Asked acts)
  history_eq : p.handled ++ l.mailbox.messages = history
  asked : ∀ t, .flush t ∈ history → .flush t ∈ acts
  answered : ∀ t result, (t, result) ∈ l.answers → .flush t ∈ p.handled
  progress : p.Sound
  file : (l.handler = .idle ∧ l.disk = start ∧ p = {}) ∨ l.Writes (start.content place) place p

variable {config : Config} {start opened : Disk} {path : Text} {acts : List Action} {a : Action}
  {history : List Message}

theorem tracks_new (config : Config) (start : Disk) (place : List Text) :
    Tracks config start place [] [] (new config start) {} where
  config_eq := rfl
  mailbox := Mailbox.sound_new ..
  history_eq := rfl
  asked := by simp
  answered := by simp [new]
  progress := Progress.sound_start
  file := .inl ⟨rfl, rfl, rfl⟩

/-- There is a handler. -/
theorem Tracks.isOpen (h : Tracks config start place acts history l p) : l.isOpen = true := by
  obtain ⟨hidle, -⟩ | ⟨file, hwork, -⟩ := h.file
  · rw [Logger.isOpen, hidle]
    rfl
  · rw [Logger.isOpen, hwork]
    rfl

/-- What was asked for before may still be asked for. -/
theorem Tracks.mono (h : Tracks config start place acts history l p) (more : List Action) :
    Tracks config start place (acts ++ more) history l p :=
  { h with
    mailbox := h.mailbox.mono fun _ hm => hm.mono more
    asked := fun t ht => List.mem_append_left _ (h.asked t ht) }

/-- Clients put messages in behind all others. -/
theorem Tracks.put (h : Tracks config start place acts history l p) {b : Mailbox Message}
    {new : List Message} (hb : b.Sound (max config.bufferSize 1) (Asked acts))
    (hmessages : b.messages = l.mailbox.messages ++ new)
    (hnew : ∀ t, .flush t ∈ new → .flush t ∈ acts) :
    Tracks config start place acts (history ++ new) { l with mailbox := b } p where
  config_eq := h.config_eq
  mailbox := hb
  history_eq := by rw [hmessages, ← List.append_assoc, h.history_eq]
  asked t ht := (List.mem_append.1 ht).elim (h.asked t) (hnew t)
  answered := h.answered
  progress := h.progress
  file := h.file

/-- An event is accepted or put on record as dropped, as there is a free slot or not. -/
theorem Tracks.log (h : Tracks config start place acts history l p) (e : Event) :
    (l.accepts = true ∧ l.mailbox.taken < max config.bufferSize 1 ∧
      l.log e = ({ l with mailbox :=
        { l.mailbox with messages := l.mailbox.messages ++ [.event e] } }, [])) ∨
    (l.accepts = false ∧ l.mailbox.taken = max config.bufferSize 1 ∧
      l.log e = (l, [droppedRecord e])) := by
  rw [Logger.log, if_pos h.isOpen, accepts, h.isOpen]
  cases hoffer : l.mailbox.offer (.event e) with
  | some b =>
    obtain ⟨hroom, rfl⟩ := Mailbox.offer_eq_some_iff.1 hoffer
    left
    refine ⟨by simpa [Mailbox.hasRoom] using hroom, ?_, rfl⟩
    rw [← h.mailbox.capacity_eq]
    exact hroom
  | none =>
    have hfull := h.mailbox.offer_eq_none_iff.1 hoffer
    right
    refine ⟨?_, hfull, rfl⟩
    simp [Mailbox.hasRoom, h.mailbox.capacity_eq, hfull]

/-- Clients that are ready to wait put in nothing but flushes. -/
theorem Tracks.putAsked (h : Tracks config start place acts history l p) {b : Mailbox Message}
    (hb : b.Sound (max config.bufferSize 1) (Asked acts) ∧
      ∃ new, (∀ m ∈ new, Asked acts m) ∧ b.messages = l.mailbox.messages ++ new) :
    ∃ new, events new = [] ∧
      Tracks config start place acts (history ++ new) { l with mailbox := b } p := by
  obtain ⟨hsound, new, hnew, hmessages⟩ := hb
  refine ⟨new, events_eq_nil fun m hm => ?_, h.put hsound hmessages fun t ht => ?_⟩
  · obtain ⟨t, rfl, -⟩ := hnew m hm
    exact ⟨t, rfl⟩
  · obtain ⟨t', heq, ht'⟩ := hnew _ ht
    cases heq
    exact ht'

/-- Handling a message answers it, if it is a flush, and nothing else. -/
theorem mem_answers_handle {m : Message} {t : Nat} {result : Except IoFault Unit}
    (h : (t, result) ∈ (l.handle (some file) m).1.answers) :
    (t, result) ∈ l.answers ∨ m = .flush t := by
  cases m with
  | event e => exact .inl h
  | flush ticket =>
    have h : (t, result) ∈ l.answers ++ [(ticket, .ok ())] := h
    rw [List.mem_append, List.mem_singleton] at h
    refine h.imp_right fun heq => ?_
    cases heq
    rfl

/-- The handler takes the first message and handles it. -/
theorem Tracks.handle (h : Tracks config start place acts history l p)
    (hfile : file.Holds (start.content place) place l.disk p.landed p.flying) {m : Message}
    {b : Mailbox Message} (htake : l.mailbox.take = some (m, b)) :
    Tracks config start place acts history ({ l with mailbox := b }.handle (some file) m).1
      (p.handle m) := by
  obtain ⟨hb, hmessages⟩ := h.mailbox.take htake
  have hconfig : ({ l with mailbox := b }.handle (some file) m).1.config = l.config := by
    cases m <;> rfl
  have hmailbox : ({ l with mailbox := b }.handle (some file) m).1.mailbox = b := by
    cases m <;> rfl
  refine ⟨hconfig.trans h.config_eq, ?_, ?_, h.asked, fun t result ht => ?_,
    h.progress.handle m, .inr (writes_handle (l := { l with mailbox := b }) hfile m)⟩
  · rw [hmailbox]
    exact hb
  · rw [hmailbox, Progress.handled_handle, List.append_assoc, List.singleton_append, ← hmessages,
      h.history_eq]
  · rw [Progress.handled_handle, List.mem_append, List.mem_singleton]
    exact (mem_answers_handle ht).imp (h.answered t result) Eq.symm

/-- What is in flight lands. -/
theorem Tracks.land (h : Tracks config start place acts history l p) :
    Tracks config start place acts history l.land p.land := by
  obtain ⟨hidle, -, rfl⟩ | ⟨file, hwork, hfile⟩ := h.file
  · have hland : l.land = l := by rw [Logger.land, hidle]
    rw [hland]
    exact h
  · have hland : l.land = l.withFile (file.land l.disk) := by rw [Logger.land, hwork]
    rw [hland]
    exact { h with progress := h.progress.land, file := .inr ⟨_, rfl, hfile.land⟩ }

/-- Whoever gets an answer to a flush finds in the file what was put into the mailbox before. -/
theorem Tracks.landed_of_answered {past new : List Message} {t : Nat} {result : Except IoFault Unit}
    (h : Tracks config start place acts (past ++ new) l p) (hpast : .flush t ∉ past)
    (ht : (t, result) ∈ l.answers) : events past <+: p.landed := by
  have hflush : .flush t ∈ p.handled := h.answered t result ht
  have hhandled : p.handled <+: past ++ new := ⟨_, h.history_eq⟩
  rcases List.prefix_or_prefix_of_prefix hhandled (List.prefix_append past new) with hle | hle
  · exact absurd (hle.subset hflush) hpast
  · -- the flush was taken after all of the past
    obtain ⟨rest, hrest⟩ := hle
    rw [← hrest, List.mem_append] at hflush
    obtain ⟨before, after, rfl⟩ := List.append_of_mem (hflush.resolve_left hpast)
    have hms : events (past ++ before) <+: p.landed := by
      refine h.progress.landed_of_flush (past ++ before) t ⟨after, ?_⟩
      rw [← hrest]
      simp
    rw [events_append] at hms
    exact (List.prefix_append _ _).trans hms

/-- The file holds the lines of the events that landed, behind what it held of old. -/
theorem Tracks.content_eq (h : Tracks config start place acts history l p) :
    l.disk.content place = start.content place ++ lines p.landed := by
  obtain ⟨-, hdisk, hp⟩ | ⟨file, -, hfile⟩ := h.file
  · rw [hdisk, hp, lines_nil, List.append_nil]
  · exact Disk.content_of_read hfile.read_eq

theorem Tracks.inFlight_eq (h : Tracks config start place acts history l p) :
    l.inFlight = lines p.flying := by
  obtain ⟨hidle, -, hp⟩ | ⟨file, hwork, hfile⟩ := h.file
  · rw [inFlight, hidle, hp, lines_nil]
  · rw [inFlight, hwork, hfile.file_eq]

/-! ## Reports -/

/-- Whether a record reports that an event was dropped. -/
def reportsDrop (r : Record) : Bool := r.message = "Audit buffer full, event dropped".toList

theorem filter_records (c : Config) (e : Event) : (c.records e).filter reportsDrop = [] := by
  rw [Config.records]
  cases c.logToStdout with
  | true =>
    rw [if_pos rfl, auditRecord]
    cases e.incident.severity <;> rfl
  | false =>
    rw [if_neg Bool.false_ne_true]
    split <;> rfl

theorem filter_start (l : Logger) (now : Text) : (l.start now).2.filter reportsDrop = [] := by
  rw [start]
  cases l.config.logToFile with
  | none => rfl
  | some path =>
    simp only
    cases LogFile.openAt l.disk path <;> rfl

theorem filter_handle (l : Logger) (file : Option LogFile) (m : Message) :
    (l.handle file m).2.filter reportsDrop = [] := by
  cases m with
  | event e =>
    cases file with
    | none => exact filter_records _ e
    | some file =>
      show (l.config.records e ++ faultRecords _ (file.write l.disk e.line).2.2).filter _ = []
      rw [List.filter_append, filter_records, List.nil_append]
      cases (file.write l.disk e.line).2.2 <;> rfl
  | flush t =>
    cases file with
    | none => rfl
    | some file =>
      show (faultRecords _ (file.flush l.disk).2.2).filter _ = []
      cases (file.flush l.disk).2.2 <;> rfl

/-- The handler reports no event as dropped. -/
theorem filter_work (l : Logger) (now : Text) : (l.work now).2.filter reportsDrop = [] := by
  unfold work
  split
  · rfl
  · exact filter_start l now
  · split
    · rfl
    · exact filter_handle ..

/-- An action reports the event that it logs if that is dropped, and no other. -/
theorem Tracks.filter_step (now : Text) (h : Tracks config start place acts history l p)
    (ha : a.keepsOpen = true) :
    (l.step now a).2.filter reportsDrop = (l.dropped now [a]).map droppedRecord := by
  cases a with
  | log e =>
    obtain ⟨haccepts, -, hlog⟩ | ⟨haccepts, -, hlog⟩ := h.log e
    · rw [Logger.step, hlog, dropped_log, if_pos haccepts]
      rfl
    · rw [Logger.step, hlog, dropped_log, haccepts]
      rfl
  | work => exact filter_work l now
  | stop => cases ha
  | finish => cases ha
  | _ => rfl

/-! ## Actions and runs

From here on the log file can be opened and takes what is written to it. -/

section Opens

variable (hpath : config.logToFile = some path)
  (hopen : LogFile.openAt start path = .ok (file, opened))
  (hplace : file.place ≠ LogFile.fullDevice)

include hpath hopen hplace

omit hplace in
/-- The first thing that the handler does is to open the log file. -/
theorem work_of_idle (now : Text) (hconfig : l.config = config) (hidle : l.handler = .idle)
    (hdisk : l.disk = start) :
    (l.work now).1 = { l with handler := .working (some file), disk := opened } := by
  rw [Logger.work, hidle]
  simp only [Logger.start, hconfig, hpath, hdisk, hopen]

/-- Work keeps the account: the file is opened, or a message is handled. -/
theorem Tracks.work (now : Text) (h : Tracks config start file.place acts history l p) :
    Tracks config start file.place acts history (l.work now).1 (l.advance p .work) := by
  obtain ⟨hidle, hdisk, hp⟩ | ⟨file', hwork, hfile⟩ := h.file
  · have hadvance : l.advance p .work = p := by rw [advance, hidle]
    rw [work_of_idle hpath hopen now h.config_eq hidle hdisk, hadvance]
    refine { h with file := .inr ⟨file, rfl, ?_⟩ }
    rw [hp]
    exact LogFile.holds_openAt hopen hplace
  · rw [Logger.work, advance, hwork]
    cases htake : l.mailbox.take with
    | none => exact h
    | some taken =>
      have hhandle := h.handle hfile htake
      rw [hwork] at hhandle
      exact hhandle

/-- **Each action keeps the account.**  What it adds to the history of the mailbox is the event that
it gets accepted, or else flushes. -/
theorem Tracks.step (now : Text) (h : Tracks config start file.place acts history l p)
    (ha : a.keepsOpen = true) :
    ∃ new, events new = l.accepted now [a] ∧
      Tracks config start file.place (acts ++ [a]) (history ++ new) (l.step now a).1
        (l.advance p a) := by
  replace h := h.mono [a]
  cases a with
  | log e =>
    obtain ⟨haccepts, hroom, hlog⟩ | ⟨haccepts, -, hlog⟩ := h.log e
    · refine ⟨[.event e], ?_, ?_⟩
      · rw [accepted_log, if_pos haccepts, events_event]
      · rw [Logger.step, hlog]
        rw [← h.mailbox.capacity_eq] at hroom
        have hoffer := (Mailbox.offer_eq_some_iff (m := .event e)).2 ⟨hroom, rfl⟩
        exact h.put (h.mailbox.offer hoffer) rfl (by simp)
    · refine ⟨[], ?_, ?_⟩
      · rw [accepted_log, haccepts]
        rfl
      · rw [Logger.step, hlog, List.append_nil]
        exact h
  | flush t =>
    have hflush : (l.step now (.flush t)).1 = { l with mailbox := l.mailbox.send (.flush t) } :=
      if_pos h.isOpen
    rw [hflush]
    exact h.putAsked (h.mailbox.send ⟨t, rfl, by simp⟩)
  | deliver i => exact h.putAsked (h.mailbox.deliver i)
  | work =>
    refine ⟨[], rfl, ?_⟩
    rw [List.append_nil]
    exact h.work hpath hopen hplace now
  | land =>
    refine ⟨[], rfl, ?_⟩
    rw [List.append_nil]
    exact h.land
  | stop => cases ha
  | finish => cases ha

/-- **A whole run keeps the account.** -/
theorem Tracks.run (now : Text) {more : List Action}
    (h : Tracks config start file.place acts history l p)
    (hmore : ∀ a ∈ more, a.keepsOpen = true) :
    ∃ new, events new = l.accepted now more ∧
      Tracks config start file.place (acts ++ more) (history ++ new) (l.run now more).1
        (l.progress now p more) := by
  induction more generalizing acts history l p with
  | nil =>
    refine ⟨[], rfl, ?_⟩
    rw [List.append_nil, List.append_nil]
    exact h
  | cons a rest ih =>
    rw [List.forall_mem_cons] at hmore
    obtain ⟨new, hnew, h'⟩ := h.step hpath hopen hplace now hmore.1
    obtain ⟨more, hmore, h''⟩ := ih h' hmore.2
    refine ⟨new ++ more, ?_, ?_⟩
    · rw [events_append, hnew, hmore, ← accepted_cons]
    · rw [List.append_cons acts, ← List.append_assoc]
      exact h''

/-- **Exactly the events that are dropped are reported as dropped.** -/
theorem Tracks.filter_run (now : Text) {more : List Action}
    (h : Tracks config start file.place acts history l p)
    (hmore : ∀ a ∈ more, a.keepsOpen = true) :
    (l.run now more).2.filter reportsDrop = (l.dropped now more).map droppedRecord := by
  induction more generalizing acts history l p with
  | nil => rfl
  | cons a rest ih =>
    rw [List.forall_mem_cons] at hmore
    obtain ⟨new, -, h'⟩ := h.step hpath hopen hplace now hmore.1
    rw [run_cons, List.filter_append, h.filter_step now hmore.1, ih h' hmore.2,
      dropped_cons now l a rest, List.map_append]

end Opens

/-! ## Nothing is lost -/

/-- **The audit log loses nothing silently.**  Let the log file of a new audit log be one that can
be opened and that takes what is written to it, and let clients log and flush, the handler work and
lines land in any order.  Then the events that landed in the file, the one in flight if there is one
and those in the mailbox are the accepted events, each once and in the order in which they were
accepted; and whatever was accepted before a flush is in the file once that flush is answered.  Each
event that is logged gets one verdict.  It is put into the mailbox with nothing on record if there
is a free slot; only if all slots are taken is it dropped, and then it is put on record and nothing
else happens.  The records that report a drop are those of the dropped events. -/
theorem nothing_lost_silently (now : Text) (config : Config) (disk : Disk) (acts : List Action)
    {path : Text} {file : LogFile} {opened : Disk} (hpath : config.logToFile = some path)
    (hopen : LogFile.openAt disk path = .ok (file, opened))
    (hplace : file.place ≠ LogFile.fullDevice) (hacts : ∀ a ∈ acts, a.keepsOpen = true) :
    let start := new config disk
    let l := (start.run now acts).1
    let slots := max config.bufferSize 1
    (∃ landed flying, landed ++ flying ++ l.queued = start.accepted now acts ∧
      l.disk.content file.place = disk.content file.place ++ lines landed ∧
      l.inFlight = lines flying ∧ flying.length ≤ 1 ∧
      ∀ before t after, acts = before ++ .flush t :: after → .flush t ∉ before →
        (t, .ok ()) ∈ l.answers → start.accepted now before <+: landed) ∧
    (∀ before e after, acts = before ++ .log e :: after →
      let b := (start.run now before).1
      (b.accepts = true ∧ b.mailbox.taken < slots ∧
        b.log e = ({ b with mailbox :=
          { b.mailbox with messages := b.mailbox.messages ++ [.event e] } }, [])) ∨
      (b.accepts = false ∧ b.mailbox.taken = slots ∧ b.log e = (b, [droppedRecord e]))) ∧
    (start.verdicts now acts).map Verdict.event = acts.filterMap Action.logged? ∧
    (start.run now acts).2.filter reportsDrop = (start.dropped now acts).map droppedRecord := by
  intro start l slots
  have hnew := tracks_new config disk file.place
  obtain ⟨history, hhistory, h⟩ := hnew.run hpath hopen hplace now hacts
  refine ⟨⟨(start.progress now {} acts).landed, (start.progress now {} acts).flying, ?_,
    h.content_eq, h.inFlight_eq, h.progress.flying_le, ?_⟩, ?_, event_verdicts ..,
    hnew.filter_run hpath hopen hplace now hacts⟩
  · rw [← h.progress.events_handled, queued, ← events_append, h.history_eq, List.nil_append,
      hhistory]
  · rintro before t after rfl hbefore ht
    rw [List.forall_mem_append] at hacts
    obtain ⟨past, hpast, hb⟩ := hnew.run hpath hopen hplace now hacts.1
    obtain ⟨more, -, hl⟩ := hb.run hpath hopen hplace now hacts.2
    rw [← run_append, ← progress_append] at hl
    rw [← hpast]
    exact hl.landed_of_answered (fun hflush => hbefore (hb.asked t hflush)) ht
  · rintro before e after rfl
    rw [List.forall_mem_append] at hacts
    obtain ⟨past, -, hb⟩ := hnew.run hpath hopen hplace now hacts.1
    exact hb.log e

/-- A log in a file of its own, with room for one message. -/
def singleSlot : Config := { logToFile := some ['/', 'a'], bufferSize := 0 }

/-- A disk with nothing on it. -/
def blankDisk : Disk := ⟨.directory [], ['/']⟩

/-- An event at noon of a day. -/
def atNoon (path : Text) : Event :=
  ⟨.pathValidated path, ⟨⟨2024, 1, 1, by decide, by decide, by decide⟩, 12, 0, 0, 0, by decide,
    by decide, by decide, by decide⟩⟩

/-- An event, a second one for which there is no room, and a flush that waits.  When the handler has
taken the first event, its slot belongs to the flush, and there is again no room. -/
def rush : List Action :=
  [.log (atNoon ['p']), .log (atNoon ['q']), .flush 0, .work, .work, .log (atNoon ['q']),
    .deliver 0, .work]

/-- In a rush with a single slot, the first event is in the file as soon as the flush is answered,
and the second is reported as dropped twice. -/
theorem nothing_lost_silently_single_slot :
    ((new singleSlot blankDisk).run [] rush).1.disk.content [['a']] = lines [atNoon ['p']] ∧
    ((new singleSlot blankDisk).run [] rush).2.filter reportsDrop
      = [droppedRecord (atNoon ['q']), droppedRecord (atNoon ['q'])] := by
  have hopen : LogFile.openAt blankDisk ['/', 'a']
      = .ok ({ place := [['a']] }, ⟨.directory [(['a'], .file [])], ['/']⟩) := rfl
  have hempty : blankDisk.content [['a']] = [] := rfl
  have haccepted : (new singleSlot blankDisk).accepted [] rush = [atNoon ['p']] := by
    decide +kernel
  have hdropped : (new singleSlot blankDisk).dropped [] rush = [atNoon ['q'], atNoon ['q']] := by
    decide +kernel
  have hanswer : (0, .ok ()) ∈ ((new singleSlot blankDisk).run [] rush).1.answers := by
    decide +kernel
  obtain ⟨⟨landed, flying, horder, hcontent, -, -, hflush⟩, -, -, hreports⟩ :=
    nothing_lost_silently [] singleSlot blankDisk rush rfl hopen (by decide) (by decide)
  obtain ⟨rest, rfl⟩ : [atNoon ['p']] <+: landed :=
    hflush [.log (atNoon ['p']), .log (atNoon ['q'])] 0 _ rfl (by simp) hanswer
  have hrest : rest = [] := by
    rw [haccepted, List.append_assoc, List.append_assoc, List.singleton_append] at horder
    exact (List.append_eq_nil_iff.1 (List.tail_eq_of_cons_eq horder)).1
  rw [hempty, hrest] at hcontent
  rw [hdropped] at hreports
  exact ⟨hcontent, hreports⟩

end Logger

end Rampart.Audit
