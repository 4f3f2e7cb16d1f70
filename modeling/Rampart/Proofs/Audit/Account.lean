import Mathlib
import Rampart.Proofs.Audit.Delivery
import Rampart.Proofs.Audit.Lines

/-!
# The audit log cannot be forged

Whatever the events hold that are logged, the log file holds one line for each that landed, and each
line is read back as its event.  This is so for every run, whether the handler is still at work, was
taken away or has ended, and also if the log file is on a device that is full.

* `Logger.Account` : the account of a run of any actions;
* `Logger.Account.step`, `Logger.Account.run` : each action and each run keep the account;
* `Logger.one_line_per_event` : the resulting statement about the log file.
-/

namespace Rampart.Audit

open Rampart.File (Disk)

/-! ## A device that is full -/

namespace LogFile

variable {d : Disk} {file : LogFile}

/-- Nothing lands on a full device. -/
theorem land_of_full (hfile : file.place = fullDevice) :
    (file.land d).1.place = fullDevice ∧ (file.land d).2 = d := by
  unfold LogFile.land
  split_ifs with hnone
  · exact ⟨hfile, rfl⟩
  · rw [store, if_pos hfile]
    exact ⟨hfile, rfl⟩

theorem flush_of_full (hfile : file.place = fullDevice) :
    (file.flush d).1.place = fullDevice ∧ (file.flush d).2.1 = d := by
  have hland := land_of_full (d := d) hfile
  rw [LogFile.flush]
  generalize file.land d = landed at hland
  obtain ⟨file', d'⟩ := landed
  cases huntold : file'.untold with
  | none =>
    simp only [huntold]
    exact hland
  | some f =>
    simp only [huntold]
    exact hland

theorem write_of_full (line : Text) (hfile : file.place = fullDevice) :
    (file.write d line).1.place = fullDevice ∧ (file.write d line).2.1 = d := by
  have hflush := flush_of_full (d := d) hfile
  rw [LogFile.write]
  generalize file.flush d = flushed at hflush
  obtain ⟨file', d', result⟩ := flushed
  cases result with
  | ok _ => exact hflush
  | error f => exact hflush

theorem sync_of_full (hfile : file.place = fullDevice) :
    (file.sync d).1.place = fullDevice ∧ (file.sync d).2 = d := land_of_full hfile

end LogFile

/-- Whether an action is one of the clients. -/
def Action.isClients : Action → Bool
  | .log _ | .flush _ | .deliver _ => true
  | _ => false

namespace Logger

variable {config : Config} {start opened : Disk} {path : Text} {place : List Text} {file : LogFile}
  {acts : List Action} {a : Action} {es : List Event} {l : Logger}

/-- Clients leave the handler and the disk alone. -/
theorem step_of_isClients (now : Text) (l : Logger) (ha : a.isClients = true) :
    (l.step now a).1.config = l.config ∧ (l.step now a).1.handler = l.handler ∧
      (l.step now a).1.disk = l.disk := by
  cases a with
  | log e =>
    rw [Logger.step, Logger.log]
    split_ifs with hopen
    · cases l.mailbox.offer (.event e) with
      | some b => exact ⟨rfl, rfl, rfl⟩
      | none => exact ⟨rfl, rfl, rfl⟩
    · exact ⟨rfl, rfl, rfl⟩
  | flush t =>
    rw [Logger.step, Logger.flush]
    split_ifs with hopen
    · exact ⟨rfl, rfl, rfl⟩
    · exact ⟨rfl, rfl, rfl⟩
  | deliver i => exact ⟨rfl, rfl, rfl⟩
  | work => cases ha
  | land => cases ha
  | stop => cases ha
  | finish => cases ha

/-- The handler has yet to start, or works with a log file on a full device. -/
structure Stuck (config : Config) (start opened : Disk) (l : Logger) : Prop where
  config_eq : l.config = config
  file : (l.handler = .idle ∧ l.disk = start) ∨
    ∃ file, l.handler = .working (some file) ∧ file.place = LogFile.fullDevice ∧ l.disk = opened

/-- Handling a message changes nothing on a full device. -/
theorem Stuck.handle (hconfig : l.config = config) (hfile : file.place = LogFile.fullDevice)
    (hdisk : l.disk = opened) (m : Message) :
    Stuck config start opened (l.handle (some file) m).1 := by
  subst hdisk
  cases m with
  | event e =>
    obtain ⟨hplace, hdisk⟩ := LogFile.write_of_full (d := l.disk) e.line hfile
    obtain ⟨hplace', hdisk'⟩ := LogFile.sync_of_full (d := (file.write l.disk e.line).2.1) hplace
    refine ⟨hconfig, .inr ?_⟩
    rw [handle_event]
    split_ifs with halert
    · exact ⟨_, rfl, hplace', hdisk'.trans hdisk⟩
    · exact ⟨_, rfl, hplace, hdisk⟩
  | flush t =>
    obtain ⟨hplace, hdisk⟩ := LogFile.flush_of_full (d := l.disk) hfile
    exact ⟨hconfig, .inr ⟨_, rfl, hplace, hdisk⟩⟩

/-- What lands does not get onto a full device. -/
theorem Stuck.land (h : Stuck config start opened l) : Stuck config start opened l.land := by
  obtain ⟨hidle, -⟩ | ⟨file, hwork, hplace, hdisk⟩ := h.file
  · have hland : l.land = l := by rw [Logger.land, hidle]
    rw [hland]
    exact h
  · obtain ⟨hplace', hdisk'⟩ := LogFile.land_of_full (d := l.disk) hplace
    have hland : l.land = l.withFile (file.land l.disk) := by rw [Logger.land, hwork]
    rw [hland]
    exact ⟨h.config_eq, .inr ⟨_, rfl, hplace', hdisk'.trans hdisk⟩⟩

/-- Clients change nothing on a full device. -/
theorem Stuck.client (now : Text) (h : Stuck config start opened l) (ha : a.isClients = true) :
    Stuck config start opened (l.step now a).1 := by
  obtain ⟨hconfig, hhandler, hdisk⟩ := step_of_isClients now l ha
  refine ⟨hconfig.trans h.config_eq, ?_⟩
  rw [hhandler, hdisk]
  exact h.file

/-- Nor does work, once the log file has been opened. -/
theorem Stuck.work (now : Text) (hpath : config.logToFile = some path)
    (hopen : LogFile.openAt start path = .ok (file, opened))
    (hplace : file.place = LogFile.fullDevice) (h : Stuck config start opened l) :
    Stuck config start opened (l.work now).1 := by
  obtain ⟨hidle, hdisk⟩ | ⟨file', hwork, hplace', hdisk⟩ := h.file
  · rw [work_of_idle hpath hopen now h.config_eq hidle hdisk]
    exact ⟨h.config_eq, .inr ⟨file, rfl, hplace, rfl⟩⟩
  · rw [Logger.work, hwork]
    cases htake : l.mailbox.take with
    | none => exact h
    | some taken =>
      obtain ⟨m, b⟩ := taken
      have hhandle : Stuck config start opened ({ l with mailbox := b }.handle (some file') m).1 :=
        Stuck.handle (l := { l with mailbox := b }) h.config_eq hplace' hdisk m
      rw [hwork] at hhandle
      exact hhandle

/-! ## Every run -/

/-- The handler is gone.  The first of the accepted events landed, and all of them if the file took
what was written to it and the handler was not taken away. -/
structure Ended (start : Disk) (place : List Text) (acts : List Action) (es : List Event)
    (l : Logger) : Prop where
  handler_eq : l.handler = .gone
  landed : ∃ landed, landed <+: es ∧
    (place ≠ LogFile.fullDevice → .stop ∉ acts → landed = es) ∧
    l.disk.content place = start.content place ++ lines landed

/-- The account of a run that consisted of `acts` and in which `es` were accepted: the handler keeps
its account, is stuck or has ended. -/
inductive Account (config : Config) (start opened : Disk) (place : List Text) (acts : List Action)
    (es : List Event) (l : Logger) : Prop
  | tracks (hplace : place ≠ LogFile.fullDevice) (history : List Message) (p : Progress)
      (hes : events history = es) (h : Tracks config start place acts history l p)
  | stuck (hplace : place = LogFile.fullDevice) (h : Stuck config start opened l)
  | ended (h : Ended start place acts es l)

/-- Without a handler nothing happens any more. -/
theorem Ended.step (now : Text) (h : Ended start place acts es l) (a : Action) :
    Ended start place (acts ++ [a]) (es ++ l.accepted now [a]) (l.step now a).1 := by
  have hclosed : l.isOpen = false := by
    rw [Logger.isOpen, h.handler_eq]
    rfl
  have hnone : l.accepted now [a] = [] := by
    cases a with
    | log e => rw [accepted_log, accepts, hclosed, Bool.false_and, if_neg Bool.false_ne_true]
    | _ => rfl
  -- clients may still put messages in, but nobody takes them out
  have hstep : (l.step now a).1.handler = l.handler ∧ (l.step now a).1.disk = l.disk := by
    by_cases ha : a.isClients = true
    · exact (step_of_isClients now l ha).2
    cases a with
    | log e => exact absurd rfl ha
    | flush t => exact absurd rfl ha
    | deliver i => exact absurd rfl ha
    | work => rw [Logger.step, Logger.work, h.handler_eq]; exact ⟨h.handler_eq, rfl⟩
    | land => rw [Logger.step, Logger.land, h.handler_eq]; exact ⟨h.handler_eq, rfl⟩
    | stop => rw [Logger.step, Logger.stop, hclosed]; exact ⟨rfl, rfl⟩
    | finish => rw [Logger.step, Logger.finish, h.handler_eq]; exact ⟨h.handler_eq, rfl⟩
  obtain ⟨landed, hprefix, hall, hcontent⟩ := h.landed
  rw [hnone, List.append_nil]
  refine ⟨hstep.1.trans h.handler_eq, landed, hprefix, ?_, ?_⟩
  · intro hplace hstop
    exact hall hplace fun hmem => hstop (List.mem_append_left _ hmem)
  · rw [hstep.2, hcontent]

/-- Messages that are given up change neither the handler nor the disk. -/
theorem foldl_abandon (fault : IoFault) (ms : List Message) (l : Logger) :
    (ms.foldl (abandon fault) l).handler = l.handler ∧
      (ms.foldl (abandon fault) l).disk = l.disk := by
  induction ms generalizing l with
  | nil => exact ⟨rfl, rfl⟩
  | cons m ms ih =>
    cases m with
    | event e => exact ih l
    | flush t => exact ih _

/-- The handler is taken away when what is in flight has landed. -/
theorem stop_of_isOpen (hopen : l.isOpen = true) :
    l.stop.handler = .gone ∧ l.stop.disk = l.land.disk := by
  -- first what is in the mailbox is given up, then what waits outside
  rw [Logger.stop, if_pos hopen]
  obtain ⟨hhandler, hdisk⟩ := foldl_abandon .auditClosed (l.mailbox.granted ++ l.mailbox.waiting)
    (l.mailbox.messages.foldl (abandon .auditStopped)
      { l.land with handler := .gone, mailbox := l.mailbox.clear })
  obtain ⟨hhandler', hdisk'⟩ := foldl_abandon .auditStopped l.mailbox.messages
    { l.land with handler := .gone, mailbox := l.mailbox.clear }
  exact ⟨hhandler.trans hhandler', hdisk.trans hdisk'⟩

/-- A handler that is taken away leaves behind what landed. -/
theorem Tracks.stop {history : List Message} {p : Progress}
    (h : Tracks config start place acts history l p) :
    Ended start place (acts ++ [.stop]) (events history) l.stop := by
  obtain ⟨hgone, hdisk⟩ := stop_of_isOpen h.isOpen
  have hland := h.land
  -- what is in the mailbox is lost, so the events that landed are only the first ones
  refine ⟨hgone, p.land.landed, ?_, ?_, ?_⟩
  · rw [← hland.history_eq, events_append, hland.progress.events_handled, List.append_assoc]
    exact List.prefix_append _ _
  · intro _ hstop
    exact absurd (List.mem_append_right _ List.mem_cons_self) hstop
  · rw [hdisk, hland.content_eq]

/-- What lands does not come out of the mailbox. -/
theorem land_mailbox (l : Logger) : l.land.mailbox = l.mailbox := by
  unfold Logger.land
  split
  · rfl
  · rfl

/-- The handler ends only when the mailbox is empty, and lets land what is in flight. -/
theorem finish_cases (l : Logger) :
    l.finish.1 = l ∨ (l.mailbox.messages = [] ∧ l.finish.1.handler = .gone ∧
      l.finish.1.disk = l.land.disk) := by
  rw [Logger.finish]
  cases l.handler with
  | working file =>
    by_cases hpending : l.mailbox.pending = 0
    · right
      have hempty : l.mailbox.messages = [] := by
        rw [Mailbox.pending] at hpending
        exact List.eq_nil_of_length_eq_zero (by omega)
      simp only [if_pos hpending]
      exact ⟨hempty, trivial, trivial⟩
    · left
      simp only [if_neg hpending]
  | idle => exact .inl rfl
  | gone => exact .inl rfl

/-- A handler that finds nothing left to do has written everything. -/
theorem Tracks.finish {history : List Message} {p : Progress}
    (h : Tracks config start place acts history l p) :
    l.finish.1 = l ∨ Ended start place (acts ++ [.finish]) (events history) l.finish.1 := by
  refine (finish_cases l).imp_right ?_
  rintro ⟨hempty, hgone, hdisk⟩
  have hland := h.land
  -- nothing is in the mailbox and nothing stays in flight
  have hall : p.land.landed = events history := by
    rw [← hland.history_eq, land_mailbox, hempty, List.append_nil, hland.progress.events_handled]
    exact (List.append_nil _).symm
  refine ⟨hgone, p.land.landed, ?_, fun _ _ => hall, ?_⟩
  · rw [hall]
  · rw [hdisk, hland.content_eq]

/-- Nothing is written to a full device. -/
theorem Stuck.content_eq (hopen : LogFile.openAt start path = .ok (file, opened))
    (h : Stuck config start opened l) :
    l.disk.content file.place = start.content file.place := by
  rw [LogFile.openAt, bind_eq_ok_iff] at hopen
  obtain ⟨⟨place, d⟩, hopen, hfile⟩ := hopen
  cases hfile
  obtain ⟨-, hdisk⟩ | ⟨-, -, -, hdisk⟩ := h.file
  · rw [hdisk]
  · rw [hdisk]
    exact Disk.content_of_read (Disk.read_of_openToAppend hopen)

/-- A handler that is stuck ends with nothing written. -/
theorem Stuck.ended (hopen : LogFile.openAt start path = .ok (file, opened))
    (hplace : file.place = LogFile.fullDevice) (h : Stuck config start opened l) {l' : Logger}
    (hgone : l'.handler = .gone) (hdisk : l'.disk = l.disk) :
    Ended start file.place acts es l' := by
  refine ⟨hgone, [], List.nil_prefix, fun hne => absurd hplace hne, ?_⟩
  rw [hdisk, h.content_eq hopen, lines_nil, List.append_nil]

theorem Stuck.isOpen (h : Stuck config start opened l) : l.isOpen = true := by
  obtain ⟨hidle, -⟩ | ⟨file, hwork, -⟩ := h.file
  · rw [Logger.isOpen, hidle]
    rfl
  · rw [Logger.isOpen, hwork]
    rfl

section Opens

variable (hpath : config.logToFile = some path)
  (hopen : LogFile.openAt start path = .ok (file, opened))

include hpath hopen

/-- **Each action keeps the account.** -/
theorem Account.step (now : Text) (h : Account config start opened file.place acts es l)
    (a : Action) :
    Account config start opened file.place (acts ++ [a]) (es ++ l.accepted now [a])
      (l.step now a).1 := by
  cases h with
  | ended h => exact .ended (h.step now a)
  | tracks hplace history p hes h =>
    by_cases ha : a.keepsOpen = true
    · obtain ⟨new, hnew, hstep⟩ := h.step hpath hopen hplace now ha
      refine .tracks hplace (history ++ new) _ ?_ hstep
      rw [events_append, hes, hnew]
    -- only the end of the handler is left, and nothing is accepted by that
    subst hes
    cases a with
    | stop =>
      have hnone : l.accepted now [.stop] = [] := rfl
      rw [hnone, List.append_nil]
      exact .ended h.stop
    | finish =>
      have hnone : l.accepted now [.finish] = [] := rfl
      rw [hnone, List.append_nil]
      rcases h.finish with hsame | hended
      · rw [Logger.step, hsame]
        exact .tracks hplace history p rfl (h.mono [.finish])
      · exact .ended hended
    | _ => exact absurd rfl ha
  | stuck hplace h =>
    cases a with
    | work => exact .stuck hplace (h.work now hpath hopen hplace)
    | land => exact .stuck hplace h.land
    | stop =>
      obtain ⟨hgone, hdisk⟩ := stop_of_isOpen h.isOpen
      exact .ended (h.land.ended hopen hplace hgone hdisk)
    | finish =>
      rcases finish_cases l with hsame | ⟨-, hgone, hdisk⟩
      · rw [Logger.step, hsame]
        exact .stuck hplace h
      · exact .ended (h.land.ended hopen hplace hgone hdisk)
    | log e => exact .stuck hplace (h.client now rfl)
    | flush t => exact .stuck hplace (h.client now rfl)
    | deliver i => exact .stuck hplace (h.client now rfl)

/-- **A whole run keeps the account.** -/
theorem Account.run (now : Text) {more : List Action}
    (h : Account config start opened file.place acts es l) :
    Account config start opened file.place (acts ++ more) (es ++ l.accepted now more)
      (l.run now more).1 := by
  induction more generalizing acts es l with
  | nil =>
    rw [List.append_nil]
    show Account config start opened file.place acts (es ++ []) l
    rw [List.append_nil]
    exact h
  | cons a rest ih =>
    rw [accepted_cons, ← List.append_assoc, List.append_cons acts]
    exact ih (h.step hpath hopen now a)

end Opens

/-- The events that landed are the first of the accepted ones; they are all of them if nothing has
been held up or is still to be done. -/
theorem Account.exists_landed (hopen : LogFile.openAt start path = .ok (file, opened))
    (h : Account config start opened file.place acts es l) :
    ∃ landed, landed <+: es ∧
      (file.place ≠ LogFile.fullDevice → .stop ∉ acts → l.inFlight = [] → l.queued = [] →
        landed = es) ∧
      l.disk.content file.place = start.content file.place ++ lines landed := by
  cases h with
  | ended h =>
    obtain ⟨landed, hprefix, hall, hcontent⟩ := h.landed
    exact ⟨landed, hprefix, fun hplace hstop _ _ => hall hplace hstop, hcontent⟩
  | stuck hplace h =>
    refine ⟨[], List.nil_prefix, fun hne => absurd hplace hne, ?_⟩
    rw [h.content_eq hopen, lines_nil, List.append_nil]
  | tracks hplace history p hes h =>
    have horder : p.landed ++ p.flying ++ l.queued = es := by
      rw [← hes, ← h.history_eq, events_append, h.progress.events_handled, queued]
    refine ⟨p.landed, ?_, ?_, h.content_eq⟩
    · rw [← horder, List.append_assoc]
      exact List.prefix_append _ _
    · intro _ _ hflight hqueued
      rw [h.inFlight_eq, lines_eq_nil_iff] at hflight
      rw [← horder, hflight, hqueued, List.append_nil, List.append_nil]

/-- At the start there is nothing to account for. -/
theorem account_new (config : Config) (start opened : Disk) (place : List Text) :
    Account config start opened place [] [] (new config start) := by
  by_cases hplace : place = LogFile.fullDevice
  · exact .stuck hplace ⟨rfl, .inl ⟨rfl, rfl⟩⟩
  · exact .tracks hplace [] {} rfl (tracks_new config start place)

/-! ## The log file cannot be forged -/

/-- **The log file holds one line for each event, whatever the events hold.**  Let clients log and
flush, the handler work, lines land and the handler be taken away or end, in any order.  What is
appended to the log file is text, and splits at its line feeds into one line for each event that
landed, with nothing behind the last.  Each line is a JSON document of its own, that of its event,
and is read back as the event, with all its fields.  The events that landed are the first of those
that were accepted, in order; all of them, unless the device is full, the handler was taken away or
something is still in flight or in the mailbox. -/
theorem one_line_per_event (now : Text) (config : Config) (disk : Disk) (acts : List Action)
    {path : Text} {file : LogFile} {opened : Disk} (hpath : config.logToFile = some path)
    (hopen : LogFile.openAt disk path = .ok (file, opened)) :
    let start := new config disk
    let l := (start.run now acts).1
    ∃ landed appended text ls,
      l.disk.content file.place = disk.content file.place ++ appended ∧
      Text.ofUtf8? appended = some text ∧
      text.splitOn '\n' = ls ++ [[]] ∧
      List.Forall₂ (fun line e => Json.parse line = .ok e.toJson ∧ Event.parse line = .ok e)
        ls landed ∧
      landed <+: start.accepted now acts ∧
      (file.place ≠ LogFile.fullDevice → .stop ∉ acts → l.inFlight = [] → l.queued = [] →
        landed = start.accepted now acts) := by
  intro start l
  have h : Account config disk opened file.place acts (start.accepted now acts) l :=
    (account_new config disk opened file.place).run hpath hopen now
  obtain ⟨landed, hprefix, hall, hcontent⟩ := h.exists_landed hopen
  have htext : lines landed = Text.toUtf8 (landed.flatMap Event.line) :=
    Text.flatMap_toUtf8 Event.line landed
  refine ⟨landed, lines landed, landed.flatMap Event.line, landed.map fun e => e.toJson.write,
    hcontent, ?_, splitOn_flatMap_line landed, ?_, hprefix, hall⟩
  · rw [htext, Text.ofUtf8?_toUtf8]
  · rw [List.forall₂_map_left_iff, List.forall₂_same]
    intro e _
    exact ⟨e.json_parse_write, e.parse_write⟩

/-- A path that looks like the rest of a line with a line of its own behind it. -/
def forgedPath : Text := "p\"\x7d\n\x7b\"event_type\":\"SignatureRejected\",\"path\":\"q"

/-- An event with such a path is logged and written. -/
def forging : List Action := [.work, .log (atNoon forgedPath), .work, .land]

/-- There is one line for the event, which tells the path as it is. -/
theorem one_line_per_event_forged_path :
    ∃ text line, Text.ofUtf8? (((new singleSlot blankDisk).run [] forging).1.disk.content [['a']])
        = some text ∧
      text.splitOn '\n' = [line, []] ∧ Event.parse line = .ok (atNoon forgedPath) := by
  have hopen : LogFile.openAt blankDisk ['/', 'a']
      = .ok ({ place := [['a']] }, ⟨.directory [(['a'], .file [])], ['/']⟩) := rfl
  have hempty : blankDisk.content [['a']] = [] := rfl
  have haccepted : (new singleSlot blankDisk).accepted [] forging = [atNoon forgedPath] := by
    decide +kernel
  obtain ⟨landed, appended, text, ls, hcontent, htext, hlines, hread, -, hall⟩ :=
    one_line_per_event [] singleSlot blankDisk forging rfl hopen
  have hlanded : landed = [atNoon forgedPath] := by
    rw [← haccepted]
    exact hall (by decide) (by simp [forging]) (by decide +kernel) (by decide +kernel)
  subst hlanded
  cases hread with
  | cons hline hrest =>
    cases hrest
    rw [hempty, List.nil_append] at hcontent
    refine ⟨text, _, ?_, hlines, hline.2⟩
    rw [hcontent, htext]

end Logger

end Rampart.Audit
