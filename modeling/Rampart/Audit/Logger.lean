import Rampart.Audit.LogFile
import Rampart.Audit.Mailbox

/-!
# The audit logger

Any number of clients put events into one mailbox and never wait for room: an event that finds none
is dropped, and that is put on record.  A flush is a message of its own, which waits for room, and
is answered when everything in front of it has been handled.  A handler takes one message at a time,
and the lines that it writes land on the disk in their own time.  What the logger does is a sequence
of such actions in any order.
-/

namespace Rampart.Audit

open Rampart.File (Disk)

/-- What clients send to the handler. -/
inductive Message
  | event (e : Event)
  /-- A request to be told when everything before it has been handled, by its ticket. -/
  | flush (ticket : Nat)
  deriving DecidableEq

/-- The task that handles messages. -/
inductive Handler
  /-- Not started: the log file is still to be opened. -/
  | idle
  /-- At work, with the log file if there is one. -/
  | working (file : Option LogFile)
  | gone
  deriving DecidableEq

/-- The state of an audit log. -/
structure Logger where
  config : Config
  mailbox : Mailbox Message
  handler : Handler := .idle
  disk : Disk
  /-- The flushes that have come back, by ticket. -/
  answers : List (Nat × Except IoFault Unit) := []

/-- What can happen to an audit log. -/
inductive Action
  /-- A client logs an event. -/
  | log (e : Event)
  /-- A client asks for a flush. -/
  | flush (ticket : Nat)
  /-- One of the clients that were handed a slot puts its message in. -/
  | deliver (i : Nat)
  /-- The handler opens the log file, or handles one message. -/
  | work
  /-- What the log file has in flight lands. -/
  | land
  /-- The handler is taken away. -/
  | stop
  /-- The last client has left, and the handler ends if nothing is left to do. -/
  | finish

namespace Logger

/-- An audit log with nothing in it, whose handler has yet to start. -/
def new (config : Config) (disk : Disk) : Logger :=
  { config, mailbox := .new config.bufferSize, disk }

/-- Whether the handler is there to take messages. -/
def isOpen (l : Logger) : Bool := l.handler != .gone

/-- Whether an event would be taken. -/
def accepts (l : Logger) : Bool := l.isOpen && l.mailbox.hasRoom

/-- The state with one more flush answered. -/
def answer (l : Logger) (ticket : Nat) (result : Except IoFault Unit) : Logger :=
  { l with answers := l.answers ++ [(ticket, result)] }

/-! ## Clients -/

/-- Logs an event without waiting. -/
def log (l : Logger) (e : Event) : Logger × List Record :=
  if l.isOpen then
    match l.mailbox.offer (.event e) with
    | some mailbox => ({ l with mailbox }, [])
    | none => (l, [droppedRecord e])
  else (l, [closedRecord])

/-- Asks for a flush. -/
def flush (l : Logger) (ticket : Nat) : Logger :=
  if l.isOpen then { l with mailbox := l.mailbox.send (.flush ticket) }
  else l.answer ticket (.error .auditClosed)

/-! ## The handler -/

/-- Opens the log file, if there is to be one. -/
def start (l : Logger) (now : Text) : Logger × List Record :=
  match l.config.logToFile with
  | none => ({ l with handler := .working none }, [])
  | some path =>
    match LogFile.openAt l.disk path with
    | .ok (file, disk) => ({ l with handler := .working (some file), disk }, [])
    | .error f => ({ l with handler := .working none }, [unopenedRecord l.config path f now])

/-- The record of a fault, if there is one. -/
def faultRecords (message : Text) : Except IoFault Unit → List Record
  | .ok _ => []
  | .error f => [faultRecord message f]

/-- The state with the log file and the disk as they are after work on the file. -/
def withFile (l : Logger) (after : LogFile × Disk) : Logger :=
  { l with handler := .working (some after.1), disk := after.2 }

/-- Appends an event to the log file.  Severe events are forced to disk. -/
def append (l : Logger) (file : LogFile) (e : Event) : Logger × List Record :=
  let (file, disk, result) := file.write l.disk e.line
  (l.withFile (if e.incident.raisesAlert then file.sync disk else (file, disk)),
    faultRecords "Failed to write to audit log" result)

/-- Handles one message. -/
def handle (l : Logger) (file : Option LogFile) (m : Message) : Logger × List Record :=
  match m, file with
  | .event e, none => (l, l.config.records e)
  | .event e, some file =>
    let (l', records) := l.append file e
    (l', l.config.records e ++ records)
  | .flush ticket, none => (l.answer ticket (.ok ()), [])
  | .flush ticket, some file =>
    let (file, disk, result) := file.flush l.disk
    ((l.withFile (file, disk)).answer ticket (.ok ()),
      faultRecords "Failed to flush audit log" result)

/-- Opens the log file, or handles one message if there is one. -/
def work (l : Logger) (now : Text) : Logger × List Record :=
  match l.handler with
  | .gone => (l, [])
  | .idle => l.start now
  | .working file =>
    match l.mailbox.take with
    | none => (l, [])
    | some (m, mailbox) => { l with mailbox }.handle file m

/-- What the log file has in flight lands. -/
def land (l : Logger) : Logger :=
  match l.handler with
  | .working (some file) => l.withFile (file.land l.disk)
  | _ => l

/-- The answer to a message that will not be handled any more. -/
def abandon (fault : IoFault) (l : Logger) : Message → Logger
  | .event _ => l
  | .flush ticket => l.answer ticket (.error fault)

/-- Takes the handler away.  Flushes in the mailbox come back as not done, and those that wait for
room find the mailbox closed. -/
def stop (l : Logger) : Logger :=
  if l.isOpen then
    let l' := { l.land with handler := .gone, mailbox := l.mailbox.clear }
    let l' := l.mailbox.messages.foldl (abandon .auditStopped) l'
    (l.mailbox.granted ++ l.mailbox.waiting).foldl (abandon .auditClosed) l'
  else l

/-- Ends the handler, once there is nothing left to do. -/
def finish (l : Logger) : Logger × List Record :=
  match l.handler with
  | .working _ =>
    if l.mailbox.pending = 0 then ({ l.land with handler := .gone }, [endRecord]) else (l, [])
  | _ => (l, [])

/-! ## Runs -/

/-- One action, and what it puts on record. -/
def step (now : Text) (l : Logger) : Action → Logger × List Record
  | .log e => l.log e
  | .flush ticket => (l.flush ticket, [])
  | .deliver i => ({ l with mailbox := l.mailbox.deliver i }, [])
  | .work => l.work now
  | .land => (l.land, [])
  | .stop => (l.stop, [])
  | .finish => l.finish

/-- A sequence of actions, and what they put on record. -/
def run (now : Text) : Logger → List Action → Logger × List Record
  | l, [] => (l, [])
  | l, a :: rest =>
    let (l, first) := l.step now a
    let (l, more) := run now l rest
    (l, first ++ more)

/-- Lets the handler work the given number of times; before each, whoever has a slot uses it. -/
def drain (now : Text) : Nat → Logger → Logger × List Record
  | 0, l => (l, [])
  | n + 1, l =>
    let (l, first) := { l with mailbox := l.mailbox.deliverAll }.work now
    let (l, more) := drain now n l
    (l, first ++ more)

/-- Flushes and waits for the answer, while the handler handles all that there is. -/
def flushAndWait (now : Text) (l : Logger) (ticket : Nat) :
    Logger × List Record × Except IoFault Unit :=
  let l := l.flush ticket
  let (l, records) := drain now (l.mailbox.pending + 1) l
  (l, records, (l.answers.lookup ticket).getD (.error .auditStopped))

end Logger

end Rampart.Audit
