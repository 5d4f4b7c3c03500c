import Esp3Host.Time

/-!
# Priorities and tuning

Packets travel in two classes, and a link is tuned by a few times and numbers.
-/

namespace Esp3Host

inductive Priority where
  | high
  | low
  deriving DecidableEq, Repr

def Priority.name : Priority → String
  | high => "High"
  | low => "Low"

inductive UnobservedPolicy where
  | drop
  | retain
  deriving DecidableEq, Repr

namespace UnobservedPolicy

def word : UnobservedPolicy → String
  | drop => "drop"
  | retain => "retain"

def name : UnobservedPolicy → String
  | drop => "Drop"
  | retain => "Retain"

end UnobservedPolicy

/-- A packet of low priority is written as often as there are attempts, the first time included. -/
structure Tuning where
  responseTimeout : Span := Span.ofMillis 500
  attempts : Nat := 3
  transmitCycle : Span := Span.ofMillis 20
  deliveryCycle : Span := Span.ofMillis 20
  unobserved : UnobservedPolicy := .drop
  deriving DecidableEq, Repr

end Esp3Host
