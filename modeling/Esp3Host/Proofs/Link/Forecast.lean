import Mathlib.Algebra.GroupWithZero.Nat
import Esp3Host.Link.Basic

/-!
# What becomes of queued packets

Stop and wait writes a packet until a write is answered or its attempts are used up, and goes on to
the next one.  Which writes are answered therefore decides all that is written and counted in the
end: the forecast.  Its equations say how it changes with the first packet of the queue and with the
one that waits for an answer.
-/

namespace Esp3Host

/-! ## What becomes of the packets -/

structure Delivery where
  item : Item
  writes : Nat
  answered : Bool

/--
The delivery of a packet whose first write has the number `start`: it ends with the first attempt
that is answered, if there is one.
-/
def delivery (answered : Nat → Bool) (start : Nat) (item : Item) : Delivery :=
  match (List.range item.attemptsLeft).find? fun attempt => answered (start + attempt) with
  | some attempt => ⟨item, attempt + 1, true⟩
  | none => ⟨item, item.attemptsLeft, false⟩

def deliveries (answered : Nat → Bool) (start : Nat) : List Item → List Delivery
  | [] => []
  | item :: rest =>
      let first := delivery answered start item
      first :: deliveries answered (start + first.writes) rest

theorem delivery_item (answered : Nat → Bool) (start : Nat) (item : Item) :
    (delivery answered start item).item = item := by
  unfold delivery
  split <;> rfl

theorem deliveries_item (answered : Nat → Bool) (start : Nat) (items : List Item) :
    (deliveries answered start items).map Delivery.item = items := by
  induction items generalizing start with
  | nil => rfl
  | cons item rest ih => simp [deliveries, delivery_item, ih]

theorem delivery_of_exhausted (answered : Nat → Bool) (start : Nat) {item : Item}
    (h : item.attemptsLeft = 0) : delivery answered start item = ⟨item, 0, false⟩ := by
  simp [delivery, h]

theorem delivery_of_attempts (answered : Nat → Bool) (start : Nat) {item : Item}
    (h : 0 < item.attemptsLeft) :
    delivery answered start item =
      if answered start then ⟨item, 1, true⟩
      else
        let later :=
          delivery answered (start + 1) { item with attemptsLeft := item.attemptsLeft - 1 }
        ⟨item, later.writes + 1, later.answered⟩ := by
  obtain ⟨p, budget⟩ := item
  cases budget with
  | zero => exact absurd h (Nat.lt_irrefl 0)
  | succ left =>
      have hshift : (fun attempt => answered (start + (attempt + 1))) =
          fun attempt => answered (start + 1 + attempt) := by
        funext attempt
        congr 1
        omega
      cases hfirst : answered start with
      | true => simp [delivery, List.range_succ_eq_map, hfirst]
      | false =>
          simp only [delivery, List.range_succ_eq_map, List.find?_cons, Nat.add_zero, hfirst,
            List.find?_map, Function.comp_def, Nat.succ_eq_add_one, hshift, Nat.add_sub_cancel]
          cases (List.range left).find? fun attempt => answered (start + 1 + attempt) <;> rfl

/-! ## The forecast -/

structure Tally where
  frames : List Bytes
  sentLow : Nat
  retransmissions : Nat
  deliveryFailures : Nat

def Link.tally (l : Link) : Tally where
  frames := l.line.frames
  sentLow := l.counters.sentLow
  retransmissions := l.counters.retransmissions
  deliveryFailures := l.counters.deliveryFailures

namespace Tally

def add (t : Tally) (d : Delivery) : Tally where
  frames := t.frames ++ List.replicate d.writes d.item.packet.encode
  sentLow := t.sentLow + if 0 < d.item.attemptsLeft then 1 else 0
  retransmissions := t.retransmissions + (d.writes - 1)
  deliveryFailures := t.deliveryFailures + if d.answered then 0 else 1

def finish (t : Tally) (d : Delivery) : Tally where
  frames := t.frames ++ List.replicate d.writes d.item.packet.encode
  sentLow := t.sentLow
  retransmissions := t.retransmissions + d.writes
  deliveryFailures := t.deliveryFailures + if d.answered then 0 else 1

theorem foldl_add (t : Tally) (ds : List Delivery) :
    ds.foldl add t =
      { frames := t.frames ++ ds.flatMap fun d => List.replicate d.writes d.item.packet.encode
        sentLow := t.sentLow + (ds.map Delivery.item).countP (0 < ·.attemptsLeft)
        retransmissions := t.retransmissions + (ds.map (·.writes - 1)).sum
        deliveryFailures := t.deliveryFailures + ds.countP (!·.answered) } := by
  induction ds generalizing t with
  | nil => simp
  | cons d rest ih =>
      rw [List.foldl_cons, ih]
      cases hanswered : d.answered <;>
        simp [add, hanswered, List.countP_cons, Nat.add_assoc, Nat.add_comm]

end Tally

/--
What is written and counted at the end, if `current` waits for an answer and may be written as often
as it tells, `queue` comes behind it, and the next write has the number `start`.
-/
def forecast (answered : Nat → Bool) (start : Nat) (t : Tally) (queue : List Item) :
    Option Item → Tally
  | none => (deliveries answered start queue).foldl Tally.add t
  | some current =>
      let rest := delivery answered start current
      (deliveries answered (start + rest.writes) queue).foldl Tally.add (t.finish rest)

section

variable (answered : Nat → Bool) (start : Nat) (t : Tally)

theorem forecast_of_exhausted {spent : List Item} (hspent : ∀ item ∈ spent, item.attemptsLeft = 0)
    (queue : List Item) :
    forecast answered start t (spent ++ queue) none =
      forecast answered start { t with deliveryFailures := t.deliveryFailures + spent.length }
        queue none := by
  induction spent generalizing t with
  | nil => rfl
  | cons item rest ih =>
      obtain ⟨hitem, hrest⟩ := List.forall_mem_cons.mp hspent
      have hadd : t.add ⟨item, 0, false⟩ =
          { t with deliveryFailures := t.deliveryFailures + 1 } := by
        simp [Tally.add, hitem]
      have hlater := ih { t with deliveryFailures := t.deliveryFailures + 1 } hrest
      simp only [forecast] at hlater ⊢
      simp only [List.cons_append, deliveries, delivery_of_exhausted _ _ hitem, Nat.add_zero,
        List.foldl_cons, hadd]
      rw [hlater, List.length_cons, Nat.add_assoc, Nat.add_comm 1]

theorem forecast_of_first {item : Item} (h : 0 < item.attemptsLeft) (queue : List Item) :
    forecast answered start t (item :: queue) none =
      forecast answered (start + 1)
        { t with frames := t.frames ++ [item.packet.encode], sentLow := t.sentLow + 1 } queue
        (if answered start then none
          else some { item with attemptsLeft := item.attemptsLeft - 1 }) := by
  simp only [forecast, deliveries, List.foldl_cons]
  rw [delivery_of_attempts answered start h]
  cases answered start with
  | true => simp [Tally.add, h]
  | false =>
      simp [Tally.add, Tally.finish, h, delivery_item, List.replicate_succ, Nat.add_assoc,
        Nat.add_comm 1]

theorem forecast_of_again {current : Item} (h : 0 < current.attemptsLeft) (queue : List Item) :
    forecast answered start t queue (some current) =
      forecast answered (start + 1)
        { t with
          frames := t.frames ++ [current.packet.encode]
          retransmissions := t.retransmissions + 1 } queue
        (if answered start then none
          else some { current with attemptsLeft := current.attemptsLeft - 1 }) := by
  simp only [forecast]
  rw [delivery_of_attempts answered start h]
  cases answered start with
  | true => simp [Tally.finish]
  | false =>
      simp [Tally.finish, delivery_item, List.replicate_succ, Nat.add_assoc, Nat.add_comm 1]

theorem forecast_of_failure {current : Item} (h : current.attemptsLeft = 0) (queue : List Item) :
    forecast answered start t queue (some current) =
      forecast answered start { t with deliveryFailures := t.deliveryFailures + 1 } queue none := by
  simp [forecast, delivery_of_exhausted _ _ h, Tally.finish]

end

end Esp3Host
