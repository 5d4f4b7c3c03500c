import Esp3Host.Assembler
import Esp3Host.Link.Basic

/-!
# Receiving

Bytes of one source run through its assembler.  Every packet it reports is counted and queued for
delivery, a response gives the permit back, and every rejected candidate is counted and noted.
-/

namespace Esp3Host

/-- The class of a received packet: events that wait for an answer come first. -/
def Packet.priority (p : Packet) : Priority := if p.needsResponse then .high else .low

namespace Link

def enqueueReceived (l : Link) (p : Packet) : Link :=
  match p.priority with
  | .high => { l with receivedHigh := l.receivedHigh ++ [p] }
  | .low => { l with receivedLow := l.receivedLow ++ [p] }

/-- A response ends the exchange in flight by giving its permit back. -/
def acceptResponse (l : Link) : Link :=
  let (released, l) := l.release
  let l := { l with
    counters := { l.counters with responsesReceived := l.counters.responsesReceived + 1 } }
  if released then l else l.note .responseUnasked

def accept (l : Link) (p : Packet) : Link :=
  let l := { l with
    counters := { l.counters with framesReceived := l.counters.framesReceived + 1 } }
  let l := l.note (.received p)
  let l := if p.kind = .response then l.acceptResponse else l
  (l.note (.receivedQueued p.kind p.data.length p.priority)).enqueueReceived p

/-- Count and note a rejected candidate; `pending` bytes stay with the assembler. -/
def reject (l : Link) (cause : FramingError) (pending : Nat) : Link :=
  { l with counters := { l.counters with framesDropped := l.counters.framesDropped + 1 } }.note
    (.frameDropped cause pending)

def take (pending : Nat) (l : Link) : Report → Link
  | .ok p => l.accept p
  | .error e => l.reject e pending

end Link

def packetCount (reports : List Report) : Nat :=
  reports.countP fun
    | .ok _ => true
    | .error _ => false

/-- Read bytes of one source; the number tells how many packets were queued. -/
def Link.receive (l : Link) (source : Assembler) (bytes : Bytes) : Nat × Assembler × Link :=
  let (source, reports) := source.push bytes
  (packetCount reports, source, reports.foldl (Link.take source.buffered) l)

end Esp3Host
