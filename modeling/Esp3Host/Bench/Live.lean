import Esp3Host.Bench
import Esp3Host.Host

/-!
# Hosts on the bench

A host under test runs by itself between the steps: after each step it settles, unless the next one
is to follow at once.
-/

namespace Esp3Host.Bench

structure Live where
  host : Host DeviceTable
  registry : TeachIn.RegistryKind := .table
  handles : List Nat := []

namespace Live

inductive Step where
  | still (step : Bench.Step)
  | arrive (bytes : Bytes)
  | waitClosed
  | hangUp

/-- How long a response timeout may be that is waited for. -/
def patience : Span := Span.ofSeconds 1

def settle (b : Live) : Live :=
  { b with host := b.host.settle b.registry.registry patience }

def perform (b : Live) : Step → Answer × Live
  | .still step =>
      let bench : Bench := ⟨b.host.station, b.registry, b.handles⟩
      let (answer, bench) := bench.perform step
      (answer,
        { b with host := { b.host with station := bench.station }, handles := bench.handles })
  | .arrive bytes => (.nothing, { b with host := b.host.arrive bytes })
  | .waitClosed =>
      let deadline := (b.host.station.engine.window.map TeachIn.Window.deadline).getD b.host.clock
      let b := { b with host := b.host.runTo b.registry.registry deadline }
      (.flag (!b.host.station.engine.isOpen), b)
  | .hangUp => (.nothing, { b with host := b.host.hangUp })

def forgetPast (b : Live) : Live :=
  let l := b.host.link
  { b with host := b.host.setLink { l with
    journal := {}, line := { l.line with frames := [] } } }

def fault? (b : Live) : Option String :=
  if b.host.hungUp then some Host.hangUpMessage else none

end Live

end Esp3Host.Bench
