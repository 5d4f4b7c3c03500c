import Esp3Host.Proofs.Link.Handed
import Esp3Host.Proofs.Link.Intake
import Esp3Host.Proofs.Link.Traffic

/-!
# The books of a link

What was queued and how exchanges ended is booked from outside, by the events of a run and by what
its cycles find.  The link's own counters, its queues and the frames on its line agree with these
books at any time, so that no packet is lost on its way and none is counted twice.
-/

namespace Esp3Host

def Link.inFlight (l : Link) : Nat := if l.outstanding.isSome then 1 else 0

theorem Link.inFlight_of_some {l : Link} {current : Exchange} (h : l.outstanding = some current) :
    l.inFlight = 1 := by
  simp [inFlight, h]

theorem Link.Turn.sent_eq {l next : Link} {now : Instant} {outcome : CycleOutcome}
    (hturn : l.Turn now outcome next) :
    next.counters.sentHigh + next.counters.sentLow + next.counters.retransmissions =
      l.counters.sentHigh + l.counters.sentLow + l.counters.retransmissions +
        (outcome.frames l next).length := by
  cases hturn with
  | urgent item rest hhigh =>
      rw [writeHigh_eq]
      simp [CycleOutcome.frames, hhigh]
      omega
  | alone | waiting => simp [CycleOutcome.frames]
  | resent current =>
      rw [resend_eq]
      simp [CycleOutcome.frames]
      omega
  | gaveUp current =>
      rw [giveUp_eq]
      simp [CycleOutcome.frames]
  | idle =>
      rw [dropAll_eq, collect_eq]
      simp [CycleOutcome.frames]
  | started spent item rest =>
      rw [beginExchange_eq, dropAll_eq, collect_eq]
      simp [CycleOutcome.frames]
      omega

structure Ledger where
  urgent : Nat := 0
  ordinary : Nat := 0
  answered : Nat := 0
  givenUp : Nat := 0
  deriving DecidableEq, Repr

namespace Ledger

/-- A cycle without urgent work that finds the permit free puts away the exchange that it finds. -/
def turn (k : Ledger) (l : Link) (outcome : CycleOutcome) : Ledger :=
  { k with
    answered := k.answered + if l.sendHigh = [] ∧ l.permitHeld = false then l.inFlight else 0
    givenUp := k.givenUp + if outcome = .gaveUp then 1 else 0 }

def after (k : Ledger) (t : Traffic) : Event → Ledger
  | .send _ .high _ => { k with urgent := k.urgent + 1 }
  | .send _ .low _ => { k with ordinary := k.ordinary + 1 }
  | .cycle now => k.turn t.link (t.link.cycle now).1
  | .receive _ _ | .lineFails _ => k

/--
The books and the link agree.  An exchange that is put away, or will be by the next cycle that finds
the permit free, took a response.
-/
structure Balances (k : Ledger) (l : Link) : Prop where
  ordinary : k.ordinary =
    l.sendLow.length + l.inFlight + k.answered + l.counters.deliveryFailures
  begun : l.counters.sentLow = l.inFlight + k.answered + k.givenUp
  urgent : k.urgent = l.sendHigh.length + l.counters.sentHigh
  writes : l.counters.sentHigh + l.counters.sentLow + l.counters.retransmissions =
    l.line.frames.length + l.counters.writeErrors
  responses : k.answered + (if l.permitHeld then 0 else l.inFlight) ≤ l.counters.responsesReceived

variable {k : Ledger} {l next : Link}

theorem Balances.writes_of_turn {now : Instant} {outcome : CycleOutcome} (h : k.Balances l)
    (hturn : l.Turn now outcome next) :
    next.counters.sentHigh + next.counters.sentLow + next.counters.retransmissions =
      next.line.frames.length + next.counters.writeErrors := by
  have hwrites := h.writes
  have hsent := hturn.sent_eq
  obtain ⟨hframes, herrors⟩ := hturn.line_eq
  rw [hframes, herrors, List.length_append]
  cases l.line.failing <;> simp <;> omega

theorem Balances.of_turn {now : Instant} {outcome : CycleOutcome} (h : k.Balances l)
    (hturn : l.Turn now outcome next) : (k.turn l outcome).Balances next := by
  have hwritten := h.writes_of_turn hturn
  obtain ⟨hordinary, hbegun, hurgent, -, hresponses⟩ := h
  cases hturn with
  | urgent item rest hhigh =>
      have hbooks : k.turn l .sentHigh = k := by simp [turn, hhigh]
      rw [hhigh, List.length_cons] at hurgent
      rw [hbooks]
      rw [Link.writeHigh_eq] at hwritten ⊢
      exact ⟨hordinary, hbegun, by simp only; omega, hwritten, hresponses⟩
  | alone hhigh hheld | waiting current hhigh hheld =>
      have hbooks : k.turn l .waiting = k := by simp [turn, hheld]
      rw [hbooks]
      exact ⟨hordinary, hbegun, hurgent, hwritten, hresponses⟩
  | resent current hhigh hheld hout =>
      have hbooks : k.turn l .retransmitted = k := by simp [turn, hheld]
      rw [Link.inFlight_of_some hout] at hordinary hbegun
      rw [hbooks]
      rw [Link.resend_eq] at hwritten ⊢
      exact ⟨hordinary, hbegun, hurgent, hwritten, by simpa [hheld] using hresponses⟩
  | gaveUp current hhigh hheld hout =>
      have hbooks : k.turn l .gaveUp = { k with givenUp := k.givenUp + 1 } := by simp [turn, hheld]
      rw [Link.inFlight_of_some hout] at hordinary hbegun
      rw [hbooks]
      rw [Link.giveUp_eq] at hwritten ⊢
      constructor
      case ordinary =>
        change k.ordinary = l.sendLow.length + 0 + k.answered + (l.counters.deliveryFailures + 1)
        omega
      case begun =>
        change l.counters.sentLow = 0 + k.answered + (k.givenUp + 1)
        omega
      case urgent => exact hurgent
      case writes => exact hwritten
      case responses => simpa [Link.inFlight, hheld] using hresponses
  | idle hhigh hfree hspent =>
      have hbooks : k.turn l .idle = { k with answered := k.answered + l.inFlight } := by
        simp [turn, hhigh, hfree]
      rw [hbooks]
      rw [Link.dropAll_eq, Link.collect_eq] at hwritten ⊢
      constructor
      case ordinary =>
        change k.ordinary =
          0 + 0 + (k.answered + l.inFlight) + (l.counters.deliveryFailures + l.sendLow.length)
        omega
      case begun =>
        change l.counters.sentLow = 0 + (k.answered + l.inFlight) + k.givenUp
        omega
      case urgent => exact hurgent
      case writes => exact hwritten
      case responses => simpa [Link.inFlight, hfree] using hresponses
  | started spent item rest hhigh hfree hlow =>
      have hbooks : k.turn l .sentLow = { k with answered := k.answered + l.inFlight } := by
        simp [turn, hhigh, hfree]
      rw [hlow, List.length_append, List.length_cons] at hordinary
      rw [hbooks]
      rw [Link.beginExchange_eq, Link.dropAll_eq, Link.collect_eq] at hwritten ⊢
      constructor
      case ordinary =>
        change k.ordinary = rest.length + 1 + (k.answered + l.inFlight) +
          (l.counters.deliveryFailures + spent.length)
        omega
      case begun =>
        change l.counters.sentLow + 1 = 1 + (k.answered + l.inFlight) + k.givenUp
        omega
      case urgent => exact hurgent
      case writes => exact hwritten
      case responses => simpa [Link.inFlight, hfree] using hresponses

theorem Balances.of_receive (h : k.Balances l) (source : Assembler) (bytes : Bytes) :
    k.Balances (l.receive source bytes).2.2 := by
  obtain ⟨hordinary, hbegun, hurgent, hwrites, hresponses⟩ := h
  rw [Link.receive_eq]
  refine ⟨hordinary, hbegun, hurgent, hwrites, ?_⟩
  change k.answered + (if l.permitHeld && !(source.push bytes).2.any Report.isResponse then 0
    else l.inFlight) ≤
      l.counters.responsesReceived + (source.push bytes).2.countP Report.isResponse
  cases hany : (source.push bytes).2.any Report.isResponse with
  | false =>
      rw [Bool.not_false, Bool.and_true]
      omega
  | true =>
      have hone : 0 < (source.push bytes).2.countP Report.isResponse :=
        List.countP_pos_iff.mpr (List.any_eq_true.mp hany)
      have hle : l.inFlight ≤ 1 := by
        unfold Link.inFlight
        split <;> omega
      simp
      omega

theorem Balances.of_after {t : Traffic} (h : k.Balances t.link) (e : Event) :
    (k.after t e).Balances (t.step e).link := by
  cases e with
  | cycle now => exact h.of_turn (t.link.turn_cycle now)
  | receive source bytes => exact h.of_receive (t.sources source) bytes
  | lineFails failing => exact ⟨h.ordinary, h.begun, h.urgent, h.writes, h.responses⟩
  | send attempts priority p =>
      obtain ⟨hordinary, hbegun, hurgent, hwrites, hresponses⟩ := h
      rw [Traffic.step, Link.sendWith_eq]
      cases priority with
      | high =>
          refine ⟨?_, hbegun, ?_, hwrites, hresponses⟩
          · simpa [after, Link.inFlight] using hordinary
          · simp [after]
            omega
      | low =>
          refine ⟨?_, hbegun, ?_, hwrites, hresponses⟩
          · simp [after, Link.inFlight] at hordinary ⊢
            omega
          · simpa [after] using hurgent

end Ledger

namespace Traffic

def ledger (t : Traffic) (k : Ledger) : List Event → Ledger
  | [] => k
  | e :: rest => (t.step e).ledger (k.after t e) rest

theorem balances_ledger {t : Traffic} {k : Ledger} (h : k.Balances t.link) (events : List Event) :
    (t.ledger k events).Balances (t.run events).link := by
  induction events generalizing t k with
  | nil => exact h
  | cons e rest ih => exact ih (h.of_after e)

/--
On every run from empty queues and a free permit the books and the link agree: a packet that was
queued waits, is in flight, was answered or is counted as a failure; a packet that was written for
the first time is in flight, was answered or was given up; an urgent packet waits or was written;
and the writes that are counted are the frames on the line and the ones that it refused.
-/
theorem books_balance (tuning : Tuning) (events : List Event) :
    ((fresh tuning).ledger {} events).Balances ((fresh tuning).run events).link :=
  balances_ledger ⟨rfl, rfl, rfl, rfl, Nat.zero_le _⟩ events

example :
    let p := Packet.sealed .commonCommand [0x03] []
    let events := [.send 1 .low p, .send 0 .low p, .cycle 0, .cycle 600000000, .cycle 600000000]
    (fresh {}).ledger {} events = { ordinary := 2, givenUp := 1 } ∧
      ((fresh {}).run events).link.counters.deliveryFailures = 2 := by
  decide +kernel

end Traffic

end Esp3Host
