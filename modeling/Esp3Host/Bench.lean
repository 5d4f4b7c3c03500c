import Esp3Host.Station

/-!
# Stations on the bench

A station under test is stepped by hand: every operation of its parts is a step, the time of every
cycle is given, and the clock that the teach-in engine reads stands still at zero.  The registry and
the observers come from a stock of well-behaved and of awkward ones.
-/

namespace Esp3Host

namespace TeachIn

/-! ## Registries and observers for the bench -/

/--
Registries that never know a device, never create one, close the window when asked about a profile,
or close it then and open it for another device.
-/
inductive RegistryKind where
  | table
  | forgetful
  | rejecting
  | closing
  | retargeting
  deriving DecidableEq, Repr

def callbackWindow : Span := Span.ofSeconds 600

def otherTarget : Target := ⟨Address.ofNat 0x42, ⟨0xF6, 0x02, 0x02⟩⟩

def RegistryKind.registry : RegistryKind → Registry DeviceTable
  | table => tableRegistry
  | forgetful => { tableRegistry with lookup := fun table _ => ⟨none, [], table⟩ }
  | rejecting =>
      { tableRegistry with
        create := fun table _ => (.error (.rejected "registry full"), [], table) }
  | closing =>
      { tableRegistry with
        supports := fun table profile => ⟨table.supports profile, [.closeWindow], table⟩ }
  | retargeting =>
      { tableRegistry with
        supports := fun table profile =>
          ⟨table.supports profile,
            [.closeWindow, .openWindow callbackWindow (some otherTarget)], table⟩ }

inductive NoticeKind where
  | started
  | ended
  | found
  | registered
  deriving DecidableEq, Repr

def Notice.kind : Notice → NoticeKind
  | started => .started
  | ended => .ended
  | found _ => .found
  | registered _ _ => .registered

namespace Observer

def silent (name : String) : Observer := ⟨name, false, fun _ => []⟩

def calling (name : String) (kind : NoticeKind) (call : WindowCall) : Observer :=
  ⟨name, true, fun n => if n.kind = kind then [fun _ => some call] else []⟩

end Observer

end TeachIn

/-! ## The bench -/

structure Bench where
  station : Station DeviceTable
  registry : TeachIn.RegistryKind := .table
  handles : List Nat := []

inductive QueueName where
  | sendHigh
  | sendLow
  | receivedHigh
  | receivedLow
  deriving DecidableEq, Repr

namespace Bench

inductive Step where
  | send (priority : Priority) (packet : Packet)
  | push (queue : QueueName) (item : Item) (front : Bool)
  | pop (queue : QueueName)
  | drain (queue : QueueName)
  | receive (source : Nat) (bytes : Bytes)
  | transmit (now : Instant)
  | deliver (now : Instant)
  | acquire
  | release
  | available
  | setFailing (failing : Bool)
  | clearLine
  | listen (listener : Listener)
  | unlisten (index : Nat)
  | openWindow (length : Span) (target : Option TeachIn.Target)
  | closeWindow
  | expire (offset : Int)
  | remaining (offset : Int)
  | handle (packet : Packet)
  | observe (observer : TeachIn.Observer)
  | insertDevice (device : Device)
  | createDevice (device : Device)
  | findDevice (address : Address)
  | eraseDevice (address : Address)
  | listDevices
  | supports (profile : Profile)
  | counters

inductive Answer where
  | nothing
  | flag (value : Bool)
  | number (value : Nat)
  | listener (id : Nat)
  | unknownListener
  | cycle (outcome : CycleOutcome)
  | handled (outcome : TeachIn.Outcome)
  | item (found : Option Item)
  | packet (found : Option Packet)
  | items (all : List Item)
  | packets (all : List Packet)
  | span (left : Option Span)
  | device (found : Option Device)
  | deviceError (cause : DeviceError)
  | devices (all : List Device)
  | counters (counters : Counters)

/-! ## Queues -/

def pushItem (front : Bool) (queue : List Item) (item : Item) : List Item :=
  if front then item :: queue else queue ++ [item]

def pushPacket (front : Bool) (queue : List Packet) (p : Packet) : List Packet :=
  if front then p :: queue else queue ++ [p]

def pushTo (l : Link) (queue : QueueName) (item : Item) (front : Bool) : Link :=
  match queue with
  | .sendHigh => { l with sendHigh := pushItem front l.sendHigh item }
  | .sendLow => { l with sendLow := pushItem front l.sendLow item }
  | .receivedHigh => { l with receivedHigh := pushPacket front l.receivedHigh item.packet }
  | .receivedLow => { l with receivedLow := pushPacket front l.receivedLow item.packet }

def popFrom (l : Link) : QueueName → Answer × Link
  | .sendHigh => (.item l.sendHigh.head?, { l with sendHigh := l.sendHigh.tail })
  | .sendLow => (.item l.sendLow.head?, { l with sendLow := l.sendLow.tail })
  | .receivedHigh => (.packet l.receivedHigh.head?, { l with receivedHigh := l.receivedHigh.tail })
  | .receivedLow => (.packet l.receivedLow.head?, { l with receivedLow := l.receivedLow.tail })

def drainFrom (l : Link) : QueueName → Answer × Link
  | .sendHigh => (.items l.sendHigh, { l with sendHigh := [] })
  | .sendLow => (.items l.sendLow, { l with sendLow := [] })
  | .receivedHigh => (.packets l.receivedHigh, { l with receivedHigh := [] })
  | .receivedLow => (.packets l.receivedLow, { l with receivedLow := [] })

/-! ## Steps -/

def setStation (b : Bench) (s : Station DeviceTable) : Bench := { b with station := s }

def setEngine (b : Bench) (e : TeachIn.Engine DeviceTable) : Bench :=
  b.setStation { b.station with engine := e }

def setLink (b : Bench) (l : Link) : Bench := b.setStation (b.station.setLink l)

def engine (b : Bench) : TeachIn.Engine DeviceTable := b.station.engine

def link (b : Bench) : Link := b.station.link

def table (b : Bench) : DeviceTable := b.engine.registry

def setTable (b : Bench) (table : DeviceTable) : Bench :=
  b.setEngine { b.engine with registry := table }

/-- The time at an offset from the deadline; at an offset from zero if the window is closed. -/
def atDeadline (b : Bench) (offset : Int) : Instant :=
  match b.engine.window with
  | some w => w.deadline + offset
  | none => offset

def createDevice (b : Bench) (device : Device) : Answer × Bench :=
  match TeachIn.Engine.create TeachIn.tableRegistry device b.engine with
  | (.ok device, e) => (.device (some device), b.setEngine e)
  | (.error cause, e) => (.deviceError cause, b.setEngine e)

def perform (b : Bench) : Step → Answer × Bench
  | .send priority p => (.nothing, b.setStation (b.station.send priority p))
  | .push queue item front => (.nothing, b.setLink (pushTo b.link queue item front))
  | .pop queue =>
      let (answer, l) := popFrom b.link queue
      (answer, b.setLink l)
  | .drain queue =>
      let (answer, l) := drainFrom b.link queue
      (answer, b.setLink l)
  | .receive source bytes =>
      let (queued, s) := b.station.receive source bytes
      (.number queued, b.setStation s)
  | .transmit now =>
      let (outcome, s) := b.station.transmit now
      (.cycle outcome, b.setStation s)
  | .deliver now =>
      let (delivered, s) := b.station.deliver b.registry.registry now
      (.flag delivered, b.setStation s)
  | .acquire =>
      let (done, l) := b.link.acquire
      (.flag done, b.setLink l)
  | .release =>
      let (done, l) := b.link.release
      (.flag done, b.setLink l)
  | .available => (.number (if b.link.permitHeld then 0 else 1), b)
  | .setFailing failing => (.nothing, b.setLink { b.link with line := { b.link.line with failing } })
  | .clearLine => (.flag true, b.setLink { b.link with line := { b.link.line with frames := [] } })
  | .listen listener =>
      let (id, listeners) := b.station.listeners.add listener
      (.listener id,
        { b.setStation { b.station with listeners } with handles := b.handles ++ [id] })
  | .unlisten index =>
      match b.handles[index]? with
      | none => (.unknownListener, b)
      | some id =>
          let (done, listeners) := b.station.listeners.remove id
          (.flag done, b.setStation { b.station with listeners })
  | .openWindow length target =>
      let (done, e) := b.engine.openWindow length target
      (.flag done, b.setEngine e)
  | .closeWindow =>
      let (done, e) := b.engine.closeWindow
      (.flag done, b.setEngine e)
  | .expire offset =>
      let (done, e) := b.engine.expire (b.atDeadline offset)
      (.flag done, b.setEngine e)
  | .remaining offset =>
      (.span (b.engine.window.map fun w => w.remaining (b.atDeadline offset)), b)
  | .handle p =>
      let (outcome, e) := b.engine.handle b.registry.registry p
      (.handled outcome, b.setEngine e)
  | .observe observer =>
      (.nothing, b.setEngine { b.engine with observers := b.engine.observers ++ [observer] })
  | .insertDevice device => (.nothing, b.setTable (b.table.insert device))
  | .createDevice device => b.createDevice device
  | .findDevice address => (.device (b.table.find? address), b)
  | .eraseDevice address => (.device (b.table.find? address), b.setTable (b.table.erase address))
  | .listDevices => (.devices b.table.byAddress, b)
  | .supports profile => (.flag (b.table.supports profile), b)
  | .counters => (.counters b.link.counters, b)

def forgetPast (b : Bench) : Bench :=
  b.setLink { b.link with journal := {}, line := { b.link.line with frames := [] } }

end Bench

end Esp3Host
