import Esp3Host.Proofs.Link.Reception
import Esp3Host.Proofs.Link.Turns

/-!
# Traffic on a link

Senders, byte sources, the clock and the line act on a link in any order.  A run is a list of
events, and what holds of every run is shown by what one event preserves.
-/

namespace Esp3Host

inductive Event where
  | send (attempts : Nat) (priority : Priority) (p : Packet)
  | receive (source : Nat) (bytes : Bytes)
  | cycle (now : Instant)
  | lineFails (failing : Bool)

/-- A link and the assemblers of the byte sources that feed it. -/
structure Traffic where
  link : Link
  sources : Nat → Assembler

namespace Traffic

def fresh (tuning : Tuning) : Traffic := ⟨{ tuning }, fun _ => {}⟩

def step (t : Traffic) : Event → Traffic
  | .send attempts priority p => { t with link := t.link.sendWith attempts priority p }
  | .receive source bytes =>
      let (_, assembler, link) := t.link.receive (t.sources source) bytes
      { link, sources := fun other => if other = source then assembler else t.sources other }
  | .cycle now => { t with link := (t.link.cycle now).2 }
  | .lineFails failing =>
      { t with link := { t.link with line := { t.link.line with failing } } }

def run (t : Traffic) (events : List Event) : Traffic := events.foldl step t

theorem run_append (t : Traffic) (first second : List Event) :
    t.run (first ++ second) = (t.run first).run second :=
  List.foldl_append

theorem run_induction {P : Traffic → Prop} (hstep : ∀ t e, P t → P (t.step e)) (t : Traffic)
    (events : List Event) (ht : P t) : P (t.run events) := by
  induction events generalizing t with
  | nil => exact ht
  | cons e rest ih => exact ih (t.step e) (hstep t e ht)

end Traffic

/-! ## Sending -/

theorem Link.sendWith_eq (l : Link) (attempts : Nat) (priority : Priority) (p : Packet) :
    l.sendWith attempts priority p =
      { l with
        sendHigh := l.sendHigh ++ if priority = .high then [⟨p, 1⟩] else []
        sendLow := l.sendLow ++ if priority = .low then [⟨p, attempts⟩] else []
        journal := (l.sendWith attempts priority p).journal } := by
  cases priority <;> simp [sendWith, enqueue, budget, note, record]

end Esp3Host
