import Esp3Host.Device
import Esp3Host.Packet.Basic
import Esp3Host.Time

/-!
# Teach-in windows and notices

While a teach-in window is open, unknown devices may pair.  A window ends at its deadline and may be
meant for one device only.  Observers are told when it starts and ends, which devices it found and
which known devices were heard.
-/

namespace Esp3Host.TeachIn

/-- The only device a window admits, and the profile it gets if its telegram carries none. -/
structure Target where
  address : Address
  profile : Profile
  deriving DecidableEq, Repr

structure Window where
  deadline : Instant
  target : Option Target
  deriving DecidableEq, Repr

namespace Window

def admits (w : Window) (sender : Address) : Bool :=
  match w.target with
  | none => true
  | some target => target.address = sender

def expired (w : Window) (now : Instant) : Bool := w.deadline ≤ now

def remaining (w : Window) (now : Instant) : Span := Instant.since w.deadline now

/-- Longer requests are cut down to this. -/
def maxLength : Span := Span.ofSeconds (24 * 60 * 60)

end Window

/-- A window is open while there is a deadline. -/
structure State where
  deadline : Option Instant := none
  target : Option Target := none
  deriving DecidableEq, Repr

def State.window (s : State) : Option Window :=
  s.deadline.map fun deadline => ⟨deadline, s.target⟩

inductive Notice where
  | started
  | ended
  | found (device : Device)
  | registered (device : Device) (packet : Packet)
  deriving DecidableEq, Repr

inductive WindowCall where
  | openWindow (length : Span) (target : Option Target)
  | closeWindow
  deriving DecidableEq, Repr

end Esp3Host.TeachIn
