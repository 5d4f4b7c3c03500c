import Esp3Host.TeachIn.Handle

/-!
# Turns of the window

Whoever opens or closes the window, the engine notes it in its journal.  Counting these notes counts
the openings and the closings, since nothing else that the engine or a registry notes is one.
-/

namespace Esp3Host

theorem Link.journal_send (l : Link) (priority : Priority) (p : Packet) :
    (l.send priority p).journal =
      l.journal.add (.note (.queueing p.kind p.wireLength priority)) := by
  cases priority <;> rfl

/-- A note that a window in this state was turned into the other one. -/
def Entry.turnsFrom (isOpen : Bool) : Entry → Bool
  | .note (.windowOpened _ _) => !isOpen
  | .note .windowClosed | .note .windowExpired => isOpen
  | _ => false

def Entry.Plain (entry : Entry) : Prop := ∀ isOpen, entry.turnsFrom isOpen = false

namespace TeachIn.Engine

variable {σ : Type}

/-- How often a window in this state was turned into the other one. -/
def turns (isOpen : Bool) (e : Engine σ) : Nat :=
  e.link.journal.entries.countP (Entry.turnsFrom isOpen)

theorem turns_record (isOpen : Bool) (e : Engine σ) (entry : Entry) :
    (e.record entry).turns isOpen =
      e.turns isOpen + if entry.turnsFrom isOpen then 1 else 0 := by
  simp [turns, record, Link.record]

theorem turns_note (isOpen : Bool) (e : Engine σ) (n : Note) :
    (e.note n).turns isOpen = e.turns isOpen + if (Entry.note n).turnsFrom isOpen then 1 else 0 :=
  turns_record isOpen e (.note n)

theorem turns_record_plain {entry : Entry} (h : entry.Plain) (isOpen : Bool) (e : Engine σ) :
    (e.record entry).turns isOpen = e.turns isOpen := by
  rw [turns_record, h]
  rfl

end TeachIn.Engine

end Esp3Host
