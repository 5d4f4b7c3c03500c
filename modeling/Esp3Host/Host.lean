import Esp3Host.Station

/-!
# Hosts

A host is a station in operation: bytes that have arrived at its port wait to be read, its clock
runs, and reading, delivering and transmitting take turns.  `Host.settle` lets them take turns until
nothing more happens at the present time, and lets time pass for resending where that is not long.
-/

namespace Esp3Host

namespace Link

/-- A link at its start.  It writes every packet at least once, whatever its tuning says. -/
def start (tuning : Tuning) : Link :=
  { tuning := { tuning with attempts := max 1 tuning.attempts } }

def retryAt? (l : Link) : Option Instant :=
  if l.permitHeld then
    l.outstanding.map fun exchange => exchange.sentAt.after l.tuning.responseTimeout
  else none

end Link

/--
Bytes that have arrived at the port are read later, and nothing is read or written once it is gone.
-/
structure Host (σ : Type) where
  station : Station σ
  unread : Bytes := []
  hungUp : Bool := false

namespace Host

variable {σ : Type}

def link (h : Host σ) : Link := h.station.link

def setLink (h : Host σ) (l : Link) : Host σ := { h with station := h.station.setLink l }

def clock (h : Host σ) : Instant := h.station.engine.clock

/-- Let time pass; the clock never goes back. -/
def advance (h : Host σ) (now : Instant) : Host σ :=
  { h with station := { h.station with
    engine := { h.station.engine with clock := max now h.clock } } }

def arrive (h : Host σ) (bytes : Bytes) : Host σ :=
  if h.hungUp then h else { h with unread := h.unread ++ bytes }

def hangUp (h : Host σ) : Host σ :=
  { h with unread := [], hungUp := true }.setLink
    { h.link with line := { h.link.line with failing := true } }

def hangUpMessage : String := "Serial port status failed: I/O error"

def chunkSize : Nat := 512

def read (h : Host σ) : Bool × Host σ :=
  match h.unread with
  | [] => (false, h)
  | _ =>
      let chunk := h.unread.take chunkSize
      let station := h.station.setLink (h.link.note (.chunkRead chunk))
      (true, { h with unread := h.unread.drop chunkSize, station := (station.receive 0 chunk).2 })

/-- Reading, delivering and transmitting take one turn each; tells whether one of them did much. -/
def turn (reg : TeachIn.Registry σ) (h : Host σ) : Bool × Host σ :=
  let (read, h) := h.read
  let (delivered, station) := h.station.deliver reg h.clock
  let (outcome, station) := station.transmit h.clock
  (read || delivered || (outcome != .idle && outcome != .waiting), { h with station })

def takeTurns (reg : TeachIn.Registry σ) : Nat → Host σ → Bool × Host σ
  | 0, h => (false, h)
  | limit + 1, h =>
      match h.turn reg with
      | (true, h) => takeTurns reg limit h
      | (false, h) => (true, h)

/--
A bound on the turns that read or deliver something.  Each byte read counts for less than before,
and each packet that is delivered took several of them.
-/
def hearing (h : Host σ) : Nat :=
  2 * h.unread.length + h.station.sources.foldr (fun source n => source.buffered + n) 0
    + h.link.receivedHigh.length + h.link.receivedLow.length

/--
A bound on the turns that transmit what is queued now: a waiting packet is written as often as it
has attempts.
-/
def sending (h : Host σ) : Nat :=
  h.link.sendHigh.length + h.link.sendLow.foldr (fun item n => item.attemptsLeft + 2 + n) 0
    + (h.link.outstanding.map fun exchange => exchange.item.attemptsLeft + 2).getD 0

/--
Take turns in rounds until the host is quiet.  A round is longer than what is queued needs, so one
that does not come to rest has read or delivered something.
-/
def takeRounds (reg : TeachIn.Registry σ) : Nat → Host σ → Host σ
  | 0, h => h
  | limit + 1, h =>
      match h.takeTurns reg (h.sending + 1) with
      | (true, h) => h
      | (false, h) => takeRounds reg limit h

def run (reg : TeachIn.Registry σ) (h : Host σ) : Host σ := h.takeRounds reg (h.hearing + 1)

/-- Run, and let up to a number of response timeouts pass that are shorter than `patience`. -/
def settleTo (reg : TeachIn.Registry σ) (patience : Span) : Nat → Host σ → Host σ
  | 0, h => h
  | limit + 1, h =>
      match h.link.retryAt? with
      | none => h
      | some retry =>
          if h.link.tuning.responseTimeout < patience then
            settleTo reg patience limit ((h.advance retry).run reg)
          else h

def passTo (reg : TeachIn.Registry σ) (time : Instant) : Nat → Host σ → Host σ
  | 0, h => (h.advance time).run reg
  | limit + 1, h =>
      match h.link.retryAt? with
      | none => (h.advance time).run reg
      | some retry =>
          if retry < time then passTo reg time limit ((h.advance retry).run reg)
          else (h.advance time).run reg

def runTo (reg : TeachIn.Registry σ) (time : Instant) (h : Host σ) : Host σ :=
  let h := h.run reg
  h.passTo reg time (h.sending + 1)

/--
Run until nothing more can happen without a response, or with one that may be long in coming.  Each
timeout uses up an attempt of a packet.
-/
def settle (reg : TeachIn.Registry σ) (patience : Span) (h : Host σ) : Host σ :=
  let h := h.run reg
  h.settleTo reg patience (h.sending + 1)

end Host

end Esp3Host
