/-!
# Mailboxes

A mailbox holds a bounded number of messages in the order of their arrival.  A sender that is ready
to wait stands in line when there is no room; a slot that becomes free is handed to the first in
line, who then puts the message in at a time of its own.  A slot that has been handed over is taken.
-/

namespace Rampart.Audit

/-- Messages, senders that were handed a slot, and senders that wait for one, each by the message
that they bring. -/
structure Mailbox (α : Type) where
  /-- The number of slots. -/
  capacity : Nat
  messages : List α := []
  granted : List α := []
  waiting : List α := []
  deriving Repr

namespace Mailbox

variable {α : Type}

/-- An empty mailbox; there is always room for one message. -/
def new (size : Nat) : Mailbox α := { capacity := max size 1 }

/-- The number of slots that are taken. -/
def taken (b : Mailbox α) : Nat := b.messages.length + b.granted.length

/-- Whether there is a free slot. -/
def hasRoom (b : Mailbox α) : Bool := b.taken < b.capacity

/-- Puts a message in, if there is room. -/
def offer (b : Mailbox α) (m : α) : Option (Mailbox α) :=
  if b.hasRoom then some { b with messages := b.messages ++ [m] } else none

/-- Puts a message in, or lets its sender wait in line. -/
def send (b : Mailbox α) (m : α) : Mailbox α :=
  (b.offer m).getD { b with waiting := b.waiting ++ [m] }

/-- The sender with the given number among those with a slot puts its message in. -/
def deliver (b : Mailbox α) (i : Nat) : Mailbox α :=
  match b.granted[i]? with
  | some m => { b with messages := b.messages ++ [m], granted := b.granted.eraseIdx i }
  | none => b

/-- All senders with a slot put their messages in. -/
def deliverAll (b : Mailbox α) : Mailbox α :=
  { b with messages := b.messages ++ b.granted, granted := [] }

/-- Takes the oldest message out and hands its slot to the first sender in line. -/
def take (b : Mailbox α) : Option (α × Mailbox α) :=
  match b.messages, b.waiting with
  | [], _ => none
  | m :: messages, [] => some (m, { b with messages })
  | m :: messages, w :: waiting =>
    some (m, { b with messages, granted := b.granted ++ [w], waiting })

/-- The mailbox without any message or sender. -/
def clear (b : Mailbox α) : Mailbox α := { capacity := b.capacity }

/-- The number of messages that are in the mailbox or on their way. -/
def pending (b : Mailbox α) : Nat := b.messages.length + b.granted.length + b.waiting.length

end Mailbox

end Rampart.Audit
