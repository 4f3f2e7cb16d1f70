import Rampart.Audit.Config
import Rampart.File.Opening

/-!
# The log file

Lines are appended to the log file behind the scenes.  A line that was taken is in flight until it
has reached the disk; the next write, a flush and forcing the file to disk wait for that.  A write
that fails there is told once: by the next write, whose line is lost, or by the next flush.  Forcing
the file to disk takes notice of the fault and keeps it in mind.
-/

namespace Rampart.Audit

open Rampart.File (Bytes Disk)

/-- An open log file. -/
structure LogFile where
  place : List Text
  /-- What was taken and has not reached the disk. -/
  inFlight : Bytes := []
  /-- The fault of a write that nobody has been told of yet. -/
  untold : Option IoFault := none
  deriving DecidableEq, Repr

namespace LogFile

/-- The device on which every write fails for lack of space. -/
def fullDevice : List Text := ["dev".toList, "full".toList]

/-- Opens the log file with the given path and creates it if need be. -/
def openAt (d : Disk) (path : Text) : Except IoFault (LogFile × Disk) := do
  let (place, d) ← d.openToAppend path
  return ({ place }, d)

/-- The disk with more bytes at the end of the file, if it takes them. -/
def store (d : Disk) (place : List Text) (content : Bytes) : Except IoFault Disk :=
  if place = fullDevice then .error .noSpace else d.append place content

/-- What is in flight reaches the disk or fails to. -/
def land (d : Disk) (file : LogFile) : LogFile × Disk :=
  if file.inFlight = [] then (file, d)
  else
    match store d file.place file.inFlight with
    | .ok d' => ({ file with inFlight := [] }, d')
    | .error f => ({ file with inFlight := [], untold := some f }, d)

/-- Waits until everything has landed, and tells what went wrong. -/
def flush (d : Disk) (file : LogFile) : LogFile × Disk × Except IoFault Unit :=
  let (file, d) := file.land d
  match file.untold with
  | none => (file, d, .ok ())
  | some f => ({ file with untold := none }, d, .error f)

/-- Takes a line, once the one before it has landed. -/
def write (d : Disk) (line : Text) (file : LogFile) : LogFile × Disk × Except IoFault Unit :=
  match file.flush d with
  | (file, d, .ok _) => ({ file with inFlight := line.toUtf8 }, d, .ok ())
  | (file, d, .error f) => (file, d, .error f)

/-- How a fault is told after it was kept in mind. -/
def remembered : IoFault → IoFault
  | .noSpace => .storageFull
  | f => f

/-- Forces the file to disk. -/
def sync (d : Disk) (file : LogFile) : LogFile × Disk :=
  let (file, d) := file.land d
  ({ file with untold := file.untold.map remembered }, d)

end LogFile

end Rampart.Audit
