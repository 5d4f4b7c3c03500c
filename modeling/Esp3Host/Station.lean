import Esp3Host.Link.Receive
import Esp3Host.Link.Transmit
import Esp3Host.Listener
import Esp3Host.TeachIn.Handle

/-!
# Stations

A station is everything on the host's side: the teach-in engine with its link, the listeners and the
byte sources.  A delivery cycle ticks the listeners and hands them one received packet, on the list
of listeners as it was when the cycle began.
-/

namespace Esp3Host

structure Station (σ : Type) where
  engine : TeachIn.Engine σ
  listeners : ListenerSet := {}
  sources : List Assembler := [{}, {}]

namespace Station

variable {σ : Type}

def link (s : Station σ) : Link := s.engine.link

def setLink (s : Station σ) (l : Link) : Station σ :=
  { s with engine := { s.engine with link := l } }

def record (s : Station σ) (entry : Entry) : Station σ := s.setLink (s.link.record entry)

/-! ## Sending, receiving and transmitting -/

def send (s : Station σ) (priority : Priority) (p : Packet) : Station σ :=
  s.setLink (s.link.send priority p)

/-- Feed bytes of a source; a source without an assembler gets a new one. -/
def receive (s : Station σ) (source : Nat) (bytes : Bytes) : Nat × Station σ :=
  let (queued, assembler, l) := s.link.receive (s.sources[source]?.getD {}) bytes
  (queued, { s.setLink l with sources := s.sources.set source assembler })

def transmit (s : Station σ) (now : Instant) : CycleOutcome × Station σ :=
  let (outcome, l) := s.link.cycle now
  (outcome, s.setLink l)

/-! ## Delivery -/

def fulfil (reg : TeachIn.Registry σ) (name : String) (s : Station σ) : Request → Station σ
  | .send priority p => s.send priority p
  | .subscribe listener =>
      let (id, listeners) := s.listeners.add listener
      { s with listeners }.record (.joined name id)
  | .unsubscribe id =>
      let (done, listeners) := s.listeners.remove id
      { s with listeners }.record (.left name done)
  | .teachIn p => { s with engine := (s.engine.handle reg p).2 }
  | .checkDeadline now => { s with engine := (s.engine.expire now).2 }

def tick (reg : TeachIn.Registry σ) (now : Instant) (s : Station σ) (entry : Nat × Listener) :
    Station σ :=
  let (id, listener) := entry
  let s := if listener.recordsTicks then s.record (.ticked listener.name) else s
  (listener.onTick id now).foldl (fulfil reg listener.name) s

def hear (reg : TeachIn.Registry σ) (p : Packet) (s : Station σ) (entry : Nat × Listener) :
    Station σ :=
  let (id, listener) := entry
  let s := if listener.recordsFrames then s.record (.heard listener.name p) else s
  (listener.onFrame id p).foldl (fulfil reg listener.name) s

/-- Take the oldest received packet, an urgent one first. -/
def takeReceived (l : Link) : Option (Packet × Link) :=
  match l.receivedHigh, l.receivedLow with
  | p :: rest, _ => some (p, { l with receivedHigh := rest })
  | [], p :: rest => some (p, { l with receivedLow := rest })
  | [], [] => none

/-- Throw away what nobody hears, if that is the policy. -/
def discardUnobserved (l : Link) : Link :=
  match l.tuning.unobserved with
  | .retain => l
  | .drop =>
      let count := l.receivedHigh.length + l.receivedLow.length
      if count = 0 then l
      else
        { l with
          receivedHigh := [], receivedLow := []
          counters := { l.counters with
            discardedUnobserved := l.counters.discardedUnobserved + count } }.note
          (.unobserved count)

def countDelivered (l : Link) : Link :=
  { l with counters := { l.counters with delivered := l.counters.delivered + 1 } }

/-- One delivery cycle; tells whether a packet reached the listeners. -/
def deliver (reg : TeachIn.Registry σ) (now : Instant) (s : Station σ) : Bool × Station σ :=
  let present := s.listeners.entries
  if present.isEmpty then (false, s.setLink (discardUnobserved s.link))
  else
    let s := present.foldl (tick reg now) s
    match takeReceived s.link with
    | none => (false, s)
    | some (p, l) =>
        let s := present.foldl (hear reg p) (s.setLink l)
        (true, s.setLink (countDelivered s.link))

end Station

end Esp3Host
