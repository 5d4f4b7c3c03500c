import Esp3Host.Journal

/-!
# Registries and observers

Teach-in asks a registry about devices and tells observers what happens.  Both belong to the
application, and both may ask for the window to be opened or closed while they are being called.
A registry is given by what it answers in each of its states, an observer by what it decides to call
at each notice, which may depend on all that has happened until then.
-/

namespace Esp3Host.TeachIn

/-- A registry's answer to a question, and the calls it makes before it gives it. -/
structure Consultation (σ α : Type) where
  answer : α
  calls : List WindowCall
  next : σ

/--
The registry of an application whose states have type `σ`.  Devices are created while the window is
locked, so `create` makes no calls; it may leave notes.
-/
structure Registry (σ : Type) where
  lookup : σ → Address → Consultation σ (Option Device)
  supports : σ → Profile → Consultation σ Bool
  create : σ → Device → Except DeviceError Device × List DeviceNote × σ

def creationNotes (device : Device) (outcome : Except DeviceError DeviceTable) :
    List DeviceNote :=
  match outcome with
  | .ok _ => [.registered device]
  | .error (.unsupportedProfile profile) => [.refused profile device.address]
  | .error _ => []

def createInTable (table : DeviceTable) (device : Device) :
    Except DeviceError Device × List DeviceNote × DeviceTable :=
  let outcome := table.create device
  match outcome with
  | .ok next => (.ok device, creationNotes device outcome, next)
  | .error e => (.error e, creationNotes device outcome, table)

def tableRegistry : Registry DeviceTable where
  lookup table address := ⟨table.find? address, [], table⟩
  supports table profile := ⟨table.supports profile, [], table⟩
  create := createInTable

/-- Which call an observer makes, if it makes one, after all that the journal tells. -/
abbrev Decision := Journal → Option WindowCall

/--
Decisions are made one by one, each after the call of the one before has returned.  The journal gets
an entry for each notice if the observer is recorded.
-/
structure Observer where
  name : String
  recorded : Bool
  calls : Notice → List Decision

def Observer.recorder (name : String) : Observer := ⟨name, true, fun _ => []⟩

end Esp3Host.TeachIn
