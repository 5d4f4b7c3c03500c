import Esp3Host.Host
import Esp3Host.Program.Output
import Esp3Host.Settings.Basic
import Esp3Host.Summary

/-!
# Sessions

A session is the program at work on an open port: a host, and a task that hears of what the host
receives.  Monitoring shows every packet until it is stopped, teaching shows every new device until
the window ends, and asking puts two questions to the transceiver, one after the other.
-/

namespace Esp3Host.Program

inductive Task where
  | monitor (deadline : Option Instant)
  | learn
  | ask (command : CommonCommand) (deadline : Instant) (answers : List Packet)

inductive Ending where
  | exit (code : Nat)
  | killed
  deriving DecidableEq, Repr

structure Session where
  host : Host DeviceTable
  task : Task
  ending : Option Ending := none
  outputs : List Output := []

def taskName : String := "task"

def answerTimeout : Span := Span.ofSeconds 3

namespace Session

def clock (s : Session) : Instant := s.host.clock

def hasEnded (s : Session) : Bool := s.ending.isSome

def write (s : Session) (output : Output) : Session := { s with outputs := s.outputs ++ [output] }

def engine (s : Session) : TeachIn.Engine DeviceTable := s.host.station.engine

def setEngine (s : Session) (e : TeachIn.Engine DeviceTable) : Session :=
  { s with host := { s.host with station := { s.host.station with engine := e } } }

def stopping : List Output :=
  [ .progress "Transmit task received shutdown signal",
    .progress "Delivery task received shutdown signal",
    .progress "Serial reader received shutdown signal",
    .progress "Serial reader task shutting down",
    .log .info "Link stopped" ]

def stop (s : Session) (code : Nat) : Session :=
  { s with outputs := s.outputs ++ stopping, ending := some (.exit code) }

/-! ## Monitoring -/

def endMonitor (s : Session) : Session :=
  (s.stop 0).write (.result s.host.link.counters.text)

/-! ## Teaching -/

def endLearn (s : Session) : Session :=
  (s.write (.log .info s!"{s.engine.registry.devices.length} device(s) learned")).stop 0

/-! ## Asking -/

def question (s : Session) (command : CommonCommand) (answers : List Packet) : Session :=
  { s with
    host := { s.host with station := s.host.station.send .low command.packet }
    task := .ask command (s.clock.after answerTimeout) answers }

def answerLines (version idBase : Packet) : List String :=
  let code := fun (p : Packet) => optionalName ((ReturnCode.ofPacket? p).map ReturnCode.name)
  [ match Version.ofPacket? version with
    | some v => v.text
    | none => s!"Version query failed: {code version}",
    match idBase.idBase? with
    | some base => s!"Base id: {base.text}"
    | none => s!"Base id query failed: {code idBase}" ]

def answer (s : Session) (p : Packet) (answers : List Packet) : Session :=
  match answers with
  | [] => s.question .readIdBase [p]
  | version :: _ =>
      ((answerLines version p).foldl (fun s line => s.write (.result line)) s).stop 0

def endUnanswered (s : Session) (command : CommonCommand) : Session :=
  ((s.write (.log .warn s!"No response to {command.name}")).stop 1).write
    (.complaint s!"Error: transceiver did not answer {command.name}")

/-! ## What the task hears -/

def hear (s : Session) (p : Packet) : Session :=
  match s.task with
  | .monitor _ => s.write (.log .info p.summary)
  | .learn => s
  | .ask _ _ answers =>
      if p.kind = .response then s.answer p answers
      else s.write (.log .debug s!"Skipping {p.summary}")

def notice (s : Session) : TeachIn.Notice → Session
  | .found device => s.write (.result device.text)
  | .ended => s.endLearn
  | .started | .registered _ _ => s

def takeIn (s : Session) (entry : Entry) : Session :=
  match entry with
  | .note n => s.write (.ofNote n)
  | .heard _ p => if s.hasEnded then s else s.hear p
  | .notified _ n => if s.hasEnded then s else s.notice n
  | _ => s

def catchUp (s : Session) : Session :=
  let l := s.host.link
  l.journal.entries.foldl takeIn { s with host := s.host.setLink { l with journal := {} } }

/-! ## Time -/

/--
Let the host take turns until nothing happens, the end comes, or a number of them is used up; tells
whether it was not the last.
-/
def takeTurns : Nat → Session → Bool × Session
  | 0, s => (false, s)
  | limit + 1, s =>
      if s.hasEnded then (true, s)
      else
        let (busy, host) := s.host.turn TeachIn.tableRegistry
        let s := { s with host }.catchUp
        if busy then takeTurns limit s else (true, s)

def takeRounds : Nat → Session → Session
  | 0, s => s
  | limit + 1, s =>
      match s.takeTurns (s.host.sending + 1) with
      | (true, s) => s
      | (false, s) => takeRounds limit s

def run (s : Session) : Session := s.takeRounds (s.host.hearing + 1)

def deadline? (s : Session) : Option Instant :=
  match s.task with
  | .monitor deadline => deadline
  | .learn => none
  | .ask _ deadline _ => some deadline

def timeUp (s : Session) : Session :=
  match s.task with
  | .monitor _ => s.endMonitor
  | .learn => s
  | .ask command _ _ => s.endUnanswered command

def next? (s : Session) : Option Instant :=
  let times :=
    [s.deadline?, s.host.link.retryAt?, s.engine.window.map TeachIn.Window.deadline]
  (times.filterMap id).min?

/-- Let time pass.  A task whose time is up ends before the host does anything more. -/
def advance (s : Session) (now : Instant) : Session :=
  if s.hasEnded then s
  else if s.deadline?.any (· ≤ now) then s.timeUp
  else { s with host := s.host.advance now }.run

def waitTo (condition : Session → Bool) : Nat → Session → Session
  | 0, s => s
  | limit + 1, s =>
      if condition s || s.hasEnded then s
      else
        match s.next? with
        | none => s
        | some time => waitTo condition limit (s.advance time)

/-- Each step in time uses up an attempt to write a packet, a question, or a window. -/
def wait (condition : Session → Bool) (s : Session) : Session :=
  s.waitTo condition (s.host.sending + 3)

/-! ## From outside -/

def arrive (s : Session) (bytes : Bytes) : Session :=
  if s.hasEnded then s else { s with host := s.host.arrive bytes }.run

def interrupt (s : Session) : Session :=
  if s.hasEnded then s
  else
    match s.task with
    | .monitor _ => s.endMonitor
    | .learn => (s.setEngine s.engine.closeWindow.2).catchUp
    | .ask _ _ _ => { s with ending := some .killed }

def takeOut (s : Session) : Bytes × List Output × Session :=
  let l := s.host.link
  (l.line.frames.flatten, s.outputs,
    { s with
      host := s.host.setLink { l with line := { l.line with frames := [] } }, outputs := [] })

/-! ## Beginning -/

def begun (settings : Settings) (observers : List TeachIn.Observer) (listener : Listener)
    (task : Task) : Session :=
  let engine : TeachIn.Engine DeviceTable :=
    { registry := settings.deviceTable, observers, link := Link.start settings.tuning }
  let (_, listeners) := ListenerSet.add {} listener
  { host := { station := { engine, listeners, sources := [{}] } }, task }

def monitor (settings : Settings) (seconds : Option Nat) : Session :=
  (begun settings [] (.recorder taskName false)
    (.monitor (seconds.map fun n => Instant.after 0 (Span.ofSeconds n)))).run

/-- The line tells the time that is left just after the window was opened. -/
def learn (settings : Settings) (timeout : Span) (target : Option TeachIn.Target) : Session :=
  let s := begun settings [.recorder taskName] (.teachIn taskName) .learn
  let s := (s.setEngine (s.engine.openWindow timeout target).2).catchUp
  let left := (s.engine.window.map fun w => w.remaining (s.clock.after 1)).getD 0
  (s.write (.result
    s!"Teach-in open for {left.seconds}s; press the learn button on the device")).run

def ask (settings : Settings) : Session :=
  ((begun settings [] (.recorder taskName false) .learn).question .readVersion []).run

end Session

end Esp3Host.Program
