import Esp3Host.Proofs.TeachIn.Openings

/-!
# Starts and ends with observers that call back

Every observer is told of as many starts as openings are noted and of as many ends as closings,
whatever observers and the registry call meanwhile.  So the numbers of starts and ends tell whether
the window is open.  Their order does too, for an observer that is told of every change before the
next one is made: nobody before it undoes a change that it is being told of, and nobody opens the
window again while the end of the window of a found device is still to be told.
-/

namespace Esp3Host.TeachIn.Engine

variable {σ : Type} {a b c e next : Engine σ} {earlier later : List Observer} {o : Observer}
  {perform : Performer σ}

/-! ## Notices to a seated observer -/

/-- By how many notices an observer is ahead of the turns to this state that were noted. -/
def ahead (name : String) (isOpen : Bool) (e : Engine σ) : Int :=
  (e.told name).count (.turn isOpen) - e.turns (!isOpen)

def Level (earlier : List Observer) (o : Observer) (later : List Observer)
    (before after : Engine σ) : Prop :=
  before.Seated earlier o later → after.Seated earlier o later ∧
    ∀ isOpen, after.ahead o.name isOpen = before.ahead o.name isOpen

end Esp3Host.TeachIn.Engine
