import Esp3Host.Link.Basic
import Esp3Host.TeachIn.Registry

/-!
# The teach-in window in operation

An engine holds the window, the registry and the observers, and answers over a link.  Opening an
open window and closing a closed one change nothing.  Observers are told of every change after it
has been made, one after the other, and the calls that one of them makes take effect before the next
is told.

Calls made while observers are being told of the effects of other calls nest.  The depth to which
they may nest is a field of the engine; at depth zero a call is refused.  The clock is read when a
window is opened or a packet handled.
-/

namespace Esp3Host.TeachIn

structure Engine (σ : Type) where
  registry : σ
  state : State := {}
  observers : List Observer := []
  link : Link := {}
  clock : Instant := 0
  nesting : Nat := 64

namespace Engine

variable {σ : Type}

def note (e : Engine σ) (n : Note) : Engine σ := { e with link := e.link.note n }

def record (e : Engine σ) (entry : Entry) : Engine σ := { e with link := e.link.record entry }

def window (e : Engine σ) : Option Window := e.state.window

def isOpen (e : Engine σ) : Bool := e.window.isSome

def admits (e : Engine σ) (sender : Address) : Bool :=
  match e.window with
  | none => false
  | some w => w.admits sender

/-! ## Opening and closing -/

/-- What performing a call on the window does: whether it had an effect, and the engine after it. -/
abbrev Performer (σ : Type) := WindowCall → Engine σ → Bool × Engine σ

def answerCall (perform : Performer σ) (observer : Observer) (e : Engine σ)
    (decide : Decision) : Engine σ :=
  match decide e.link.journal with
  | none => e
  | some call =>
      let (done, e) := perform call e
      if observer.recorded then e.record (.called observer.name call done) else e

def answerCalls (perform : Performer σ) (observer : Observer) (e : Engine σ)
    (decisions : List Decision) : Engine σ :=
  decisions.foldl (answerCall perform observer) e

def tell (perform : Performer σ) (notice : Notice) (e : Engine σ) (observer : Observer) :
    Engine σ :=
  let e := if observer.recorded then e.record (.notified observer.name notice) else e
  answerCalls perform observer e (observer.calls notice)

def announce (perform : Performer σ) (notice : Notice) (e : Engine σ) : Engine σ :=
  e.observers.foldl (tell perform notice) e

def openWith (perform : Performer σ) (length : Span) (target : Option Target) (e : Engine σ) :
    Bool × Engine σ :=
  if e.isOpen then (false, e.note .alreadyOpen)
  else
    let e := if Window.maxLength < length then e.note (.windowClamped length) else e
    let e := { e with state := ⟨some (e.clock.after (min length Window.maxLength)), target⟩ }
    (true, announce perform .started (e.note (.windowOpened target length)))

def closeWith (perform : Performer σ) (reason : Note) (e : Engine σ) : Bool × Engine σ :=
  if e.isOpen then
    (true, announce perform .ended ({ e with state := {} }.note reason))
  else (false, e)

/-- Perform a call, with nested calls down to a depth. -/
def performTo : Nat → Performer σ
  | 0, _, e => (false, e)
  | depth + 1, .openWindow length target, e => openWith (performTo depth) length target e
  | depth + 1, .closeWindow, e => closeWith (performTo depth) .windowClosed e

def perform (call : WindowCall) (e : Engine σ) : Bool × Engine σ := performTo (e.nesting + 1) call e

def performAll (e : Engine σ) (calls : List WindowCall) : Engine σ :=
  calls.foldl (fun e call => (perform call e).2) e

def notify (e : Engine σ) (notice : Notice) : Engine σ :=
  announce (performTo e.nesting) notice e

def openWindow (e : Engine σ) (length : Span) (target : Option Target) : Bool × Engine σ :=
  perform (.openWindow length target) e

def closeWindow (e : Engine σ) : Bool × Engine σ := perform .closeWindow e

def expire (e : Engine σ) (now : Instant) : Bool × Engine σ :=
  match e.window with
  | some w =>
      if w.expired now then closeWith (performTo e.nesting) .windowExpired e else (false, e)
  | none => (false, e)

/-! ## Consulting the registry -/

def lookup (reg : Registry σ) (address : Address) (e : Engine σ) : Option Device × Engine σ :=
  let c := reg.lookup e.registry address
  (c.answer, { e with registry := c.next }.performAll c.calls)

def supports (reg : Registry σ) (profile : Profile) (e : Engine σ) : Bool × Engine σ :=
  let c := reg.supports e.registry profile
  (c.answer, { e with registry := c.next }.performAll c.calls)

def create (reg : Registry σ) (device : Device) (e : Engine σ) :
    Except DeviceError Device × Engine σ :=
  let (outcome, notes, next) := reg.create e.registry device
  (outcome, notes.foldl (fun e n => e.note (.registry n)) { e with registry := next })

end Engine

end Esp3Host.TeachIn
