import Esp3Host.Answer
import Esp3Host.Journal
import Esp3Host.Link.Counters

/-!
# Links

A link holds what sender, receiver and transmitter share: two queues in each direction, the permit
for the one low-priority exchange that may be in flight, that exchange, the line to the transceiver
and the counters.
-/

namespace Esp3Host

structure Item where
  packet : Packet
  attemptsLeft : Nat
  deriving DecidableEq, Repr

def Item.isExhausted (item : Item) : Bool := item.attemptsLeft == 0

/-- A low-priority packet that was written and waits for its response. -/
structure Exchange where
  item : Item
  sentAt : Instant
  deriving DecidableEq, Repr

structure Line where
  frames : List Bytes := []
  failing : Bool := false
  deriving DecidableEq, Repr

structure Link where
  tuning : Tuning := {}
  sendHigh : List Item := []
  sendLow : List Item := []
  receivedHigh : List Packet := []
  receivedLow : List Packet := []
  permitHeld : Bool := false
  outstanding : Option Exchange := none
  line : Line := {}
  counters : Counters := {}
  journal : Journal := {}
  deriving DecidableEq, Repr

namespace Link

def record (l : Link) (entry : Entry) : Link := { l with journal := l.journal.add entry }

def note (l : Link) (n : Note) : Link := l.record (.note n)

/-! ## The permit -/

def acquire (l : Link) : Bool × Link := (!l.permitHeld, { l with permitHeld := true })

def release (l : Link) : Bool × Link := (l.permitHeld, { l with permitHeld := false })

/-! ## Sending -/

/--
How often a packet of a class may be written if its sender allows some attempts: urgent packets go
out once.
-/
def budget (attempts : Nat) : Priority → Nat
  | .high => 1
  | .low => attempts

def enqueue (l : Link) (priority : Priority) (item : Item) : Link :=
  match priority with
  | .high => { l with sendHigh := l.sendHigh ++ [item] }
  | .low => { l with sendLow := l.sendLow ++ [item] }

def sendWith (l : Link) (attempts : Nat) (priority : Priority) (p : Packet) : Link :=
  (l.note (.queueing p.kind p.wireLength priority)).enqueue priority ⟨p, budget attempts priority⟩

def send (l : Link) (priority : Priority) (p : Packet) : Link :=
  l.sendWith l.tuning.attempts priority p

end Link

end Esp3Host
