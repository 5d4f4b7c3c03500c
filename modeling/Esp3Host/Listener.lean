import Esp3Host.Link.Tuning
import Esp3Host.Packet.Basic
import Esp3Host.Time

/-!
# Listeners

Listeners are ticked in every delivery cycle and get every received packet.  What a listener does
then is a list of requests; a request may bring in a new listener with requests of its own.  The set
of listeners gives every registration a number that is never used again.
-/

namespace Esp3Host

mutual

inductive Request where
  | send (priority : Priority) (packet : Packet)
  | subscribe (listener : Listener)
  | unsubscribe (id : Nat)
  | teachIn (packet : Packet)
  | checkDeadline (now : Instant)

/-- A listener; what it does at a tick or a packet may depend on its own registration. -/
inductive Listener where
  | mk (name : String) (recordsTicks recordsFrames : Bool)
      (onTick : Nat → Instant → List Request) (onFrame : Nat → Packet → List Request)

end

namespace Listener

def name : Listener → String
  | mk name _ _ _ _ => name

def recordsTicks : Listener → Bool
  | mk _ recordsTicks _ _ _ => recordsTicks

def recordsFrames : Listener → Bool
  | mk _ _ recordsFrames _ _ => recordsFrames

def onTick : Listener → Nat → Instant → List Request
  | mk _ _ _ onTick _ => onTick

def onFrame : Listener → Nat → Packet → List Request
  | mk _ _ _ _ onFrame => onFrame

/-! ## Ready-made listeners -/

def ofFrames (name : String) (recordsTicks : Bool) (onFrame : Nat → Packet → List Request) :
    Listener :=
  mk name recordsTicks true (fun _ _ => []) onFrame

def recorder (name : String) (recordsTicks : Bool) : Listener :=
  ofFrames name recordsTicks fun _ _ => []

def teachIn (name : String) : Listener :=
  mk name false false (fun _ now => [.checkDeadline now]) (fun _ p => [.teachIn p])

def once (name : String) : Listener :=
  ofFrames name true fun id _ => [.unsubscribe id]

def spawner (name : String) : Listener :=
  ofFrames name true fun _ _ => [.subscribe (recorder (name ++ "+") false)]

def responder (name : String) (recordsTicks : Bool) : Listener :=
  ofFrames name recordsTicks fun _ p =>
    [.send .high (Packet.sealed .response [0x00] (p.data.take 4))]

end Listener

/-- Registered listeners in the order of their registration. -/
structure ListenerSet where
  next : Nat := 0
  entries : List (Nat × Listener) := []

namespace ListenerSet

def add (s : ListenerSet) (listener : Listener) : Nat × ListenerSet :=
  (s.next, { next := s.next + 1, entries := s.entries ++ [(s.next, listener)] })

def remove (s : ListenerSet) (id : Nat) : Bool × ListenerSet :=
  (s.entries.any fun entry => entry.1 == id,
    { s with entries := s.entries.filter fun entry => entry.1 != id })

def size (s : ListenerSet) : Nat := s.entries.length

def idText (id : Nat) : String := s!"ListenerId({id})"

end ListenerSet

end Esp3Host
