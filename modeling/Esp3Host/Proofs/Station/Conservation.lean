import Esp3Host.Proofs.Link.Intake
import Esp3Host.Proofs.Station.Runs

/-!
# Conservation of received packets

An account lists the packets that the sources of a station had accepted and those that left its
queues, the oldest first.  In every run the two lists differ, class by class, by what waits in the
queue of the class, and the counters of the link tell how long they are.  The packets that an
account books as delivered are those that the listeners are handed.
-/

namespace Esp3Host

namespace Link.Inbox

def waiting (i : Inbox) : Priority → List Packet
  | .high => i.urgent
  | .low => i.ordinary

end Link.Inbox

namespace Station

variable {σ : Type} (reg : TeachIn.Registry σ)

/-! ## Accounts -/

structure Account where
  accepted : List Packet := []
  departed : List Departure := []
  deriving DecidableEq, Repr

namespace Account

def after (k : Account) (s : Station σ) : Act → Account
  | .receive source bytes =>
      { k with accepted :=
          k.accepted ++ Esp3Host.accepted ((s.sources[source]?.getD {}).push bytes).2 }
  | .deliver _ => { k with departed := k.departed ++ s.departures }
  | _ => k

theorem discards_of_after {k : Account} {s : Station σ} {a : Act}
    (h : k.departed.countP (¬ ·.isDelivered) < (k.after s a).departed.countP (¬ ·.isDelivered)) :
    s.link.tuning.unobserved = .drop ∧ s.listeners.entries = [] ∧ ∃ now, a = .deliver now := by
  cases a with
  | deliver now =>
      simp only [after, List.countP_append] at h
      obtain ⟨d, hmem, hdiscarded⟩ :=
        List.countP_pos_iff.mp (Nat.pos_of_lt_add_right h)
      unfold departures at hmem
      split at hmem
      case isTrue hnobody =>
        split at hmem
        case h_1 hpolicy => exact ⟨hpolicy, List.isEmpty_iff.mp hnobody, now, rfl⟩
        case h_2 => cases hmem
      case isFalse =>
        obtain ⟨p, -, rfl⟩ := List.mem_map.mp hmem
        simp at hdiscarded
  | _ => exact absurd h (Nat.lt_irrefl _)

/--
What was accepted in a class has left in the same order, or waits behind what has left; the counters
tell how many packets that were.
-/
structure Balances (k : Account) (i : Link.Inbox) : Prop where
  classes : ∀ c, k.accepted.filter (·.priority = c) =
    (k.departed.map Departure.packet).filter (·.priority = c) ++ i.waiting c
  received : i.received = k.accepted.length
  delivered : i.delivered = k.departed.countP Departure.isDelivered
  discarded : i.discarded = k.departed.countP (¬ ·.isDelivered)

namespace Balances

variable {k : Account} {i : Link.Inbox}

theorem mem_accepted (h : k.Balances i) {c : Priority} {p : Packet} (hmem : p ∈ i.waiting c) :
    p ∈ k.accepted.filter (·.priority = c) := by
  rw [h.classes c]
  exact List.mem_append_right _ hmem

theorem priority_eq (h : k.Balances i) {c : Priority} {p : Packet} (hmem : p ∈ i.waiting c) :
    p.priority = c := by
  simpa using (List.mem_filter.mp (h.mem_accepted hmem)).2

theorem filter_waiting (h : k.Balances i) (c d : Priority) :
    (i.waiting d).filter (·.priority = c) = if d = c then i.waiting d else [] := by
  split
  case isTrue hsame =>
    rw [List.filter_eq_self]
    intro p hmem
    simpa [hsame] using h.priority_eq hmem
  case isFalse hother =>
    rw [List.filter_eq_nil_iff]
    intro p hmem
    simpa [h.priority_eq hmem] using hother

theorem received_eq (h : k.Balances i) :
    i.received = i.delivered + i.discarded + i.urgent.length + i.ordinary.length := by
  have hhigh := congrArg List.length (h.classes .high)
  have hlow := congrArg List.length (h.classes .low)
  have haccepted := Packet.length_eq_high_add_low k.accepted
  have hleft := Packet.length_eq_high_add_low (k.departed.map Departure.packet)
  have hdeparted : k.departed.length = i.delivered + i.discarded := by
    rw [h.delivered, h.discarded]
    exact List.length_eq_countP_add_countP Departure.isDelivered
  simp only [List.length_append, Link.Inbox.waiting] at hhigh hlow
  rw [List.length_map, hdeparted] at hleft
  have hreceived := h.received
  omega

theorem accept (h : k.Balances i) (packets : List Packet) :
    ({ k with accepted := k.accepted ++ packets } : Account).Balances
      { i with
        urgent := i.urgent ++ packets.filter (·.priority = .high)
        ordinary := i.ordinary ++ packets.filter (·.priority = .low)
        received := i.received + packets.length } where
  classes c := by
    rw [List.filter_append, h.classes c, List.append_assoc]
    cases c <;> rfl
  received := by simp [h.received]
  delivered := h.delivered
  discarded := h.discarded

theorem depart {j : Link.Inbox} (h : k.Balances i) (leaving : List Departure)
    (hclasses : ∀ c, i.waiting c =
      (leaving.map Departure.packet).filter (·.priority = c) ++ j.waiting c)
    (hreceived : j.received = i.received)
    (hdelivered : j.delivered = i.delivered + leaving.countP Departure.isDelivered)
    (hdiscarded : j.discarded = i.discarded + leaving.countP (¬ ·.isDelivered)) :
    ({ k with departed := k.departed ++ leaving } : Account).Balances j where
  classes c := by
    rw [h.classes c, hclasses c, List.map_append, List.filter_append, List.append_assoc]
  received := hreceived.trans h.received
  delivered := by rw [hdelivered, h.delivered, List.countP_append]
  discarded := by rw [hdiscarded, h.discarded, List.countP_append]

theorem deliver {j : Link.Inbox} {c : Priority} {p : Packet} (h : k.Balances i)
    (hqueue : i.waiting c = p :: j.waiting c) (hother : ∀ d, d ≠ c → i.waiting d = j.waiting d)
    (hreceived : j.received = i.received) (hdelivered : j.delivered = i.delivered + 1)
    (hdiscarded : j.discarded = i.discarded) :
    ({ k with departed := k.departed ++ [.delivered p] } : Account).Balances j := by
  have hpriority : p.priority = c := h.priority_eq (by simp [hqueue])
  apply h.depart
  case hclasses =>
    intro d
    by_cases hsame : d = c
    · simp [hsame, hpriority, hqueue]
    · simp [hother d hsame, hpriority, Ne.symm hsame]
  case hreceived => exact hreceived
  case hdelivered => simpa using hdelivered
  case hdiscarded => simpa using hdiscarded

theorem discard (h : k.Balances i) :
    ({ k with
        departed := k.departed ++ (i.urgent ++ i.ordinary).map .discarded } : Account).Balances
      { i with
        urgent := []
        ordinary := []
        discarded := i.discarded + (i.urgent.length + i.ordinary.length) } := by
  have hurgent : ∀ c, i.urgent.filter (·.priority = c) = if .high = c then i.urgent else [] :=
    fun c => h.filter_waiting c .high
  have hordinary : ∀ c, i.ordinary.filter (·.priority = c) = if .low = c then i.ordinary else [] :=
    fun c => h.filter_waiting c .low
  have hall : Departure.isDelivered ∘ Departure.discarded = fun _ => false := rfl
  apply h.depart
  case hclasses =>
    intro c
    simp only [List.map_map, Function.comp_def, Departure.packet_discarded, List.map_id_fun', id_eq,
      List.filter_append, hurgent, hordinary]
    cases c <;> simp [Link.Inbox.waiting]
  case hreceived => rfl
  case hdelivered => simp [List.countP_map, hall]
  case hdiscarded => simp [List.countP_map, Function.comp_def]

theorem of_exit {s : Station σ} {now : Instant} {leaving : List Departure}
    {result : Bool × Station σ} (h : k.Balances s.link.inbox)
    (hexit : Exit reg now s leaving result) :
    ({ k with departed := k.departed ++ leaving } : Account).Balances result.2.link.inbox := by
  -- One queue loses its head, both are emptied, or nothing leaves.
  cases hexit with
  | dropped hnobody hpolicy =>
      rw [inbox_setLink, inbox_discardUnobserved hpolicy]
      exact h.discard
  | retained hnobody hpolicy => simpa using h
  | silent hpresent hhigh hlow =>
      rw [inbox_tickAll]
      simpa using h
  | urgent p rest hpresent hhigh =>
      rw [inbox_hand, inbox_setLink, inbox_takeUrgent (inbox_tickAll reg now s)]
      apply h.deliver (c := .high)
      case hqueue => exact hhigh
      case hother =>
        rintro (_ | _) hother
        · contradiction
        · rfl
      all_goals rfl
  | ordinary p rest hpresent hhigh hlow =>
      rw [inbox_hand, inbox_setLink, inbox_takeOrdinary (inbox_tickAll reg now s)]
      apply h.deliver (c := .low)
      case hqueue => exact hlow
      case hother =>
        rintro (_ | _) hother
        · rfl
        · contradiction
      all_goals rfl

theorem of_after {s : Station σ} (h : k.Balances s.link.inbox) (a : Act) :
    (k.after s a).Balances (s.act reg a).link.inbox := by
  cases a with
  | receive source bytes =>
      change ({ k with accepted := _ } : Account).Balances (s.link.receive _ bytes).2.2.inbox
      rw [Link.receive_eq]
      exact h.accept _
  | deliver now => exact h.of_exit reg (exit_deliver reg now s)
  | listen | unlisten | revise => exact h
  | adopt policy => exact ⟨h.classes, h.received, h.delivered, h.discarded⟩
  | send priority p =>
      change k.Balances (s.link.send priority p).inbox
      rwa [(Link.Grown.send .refl priority p).inbox_eq]
  | transmit now =>
      change k.Balances (s.link.cycle now).2.inbox
      rwa [(s.link.turn_cycle now).inbox_eq]

end Balances

end Account

def account (s : Station σ) (k : Account) : List Act → Account
  | [] => k
  | a :: rest => (s.act reg a).account (k.after s a) rest

theorem balances_account {s : Station σ} {k : Account} (h : k.Balances s.link.inbox)
    (acts : List Act) : (s.account reg k acts).Balances (s.run reg acts).link.inbox := by
  induction acts generalizing s k with
  | nil => exact h
  | cons a rest ih => exact ih (h.of_after reg a)

theorem balances_fresh (engine : TeachIn.Engine σ) (tuning : Tuning) (listeners : ListenerSet)
    (receivers : Nat) :
    ({} : Account).Balances (fresh engine tuning listeners receivers).link.inbox where
  classes := by rintro (_ | _) <;> rfl
  received := rfl
  delivered := rfl
  discarded := rfl

/-! ## Packets that were handed out -/

theorem handed_deliver (now : Instant) (s : Station σ) :
    handed (s.callsIn reg [.deliver now]) =
      (s.departures.filter Departure.isDelivered).flatMap fun d =>
        s.listeners.entries.map fun entry => (entry.1, d.packet) := by
  rw [callsIn_deliver, handed_round, toList_oldest]
  by_cases hpresent : s.listeners.entries = []
  · simp only [hpresent, List.map_nil]
    rw [List.flatMap_eq_nil_iff.mpr fun _ _ => rfl, List.flatMap_eq_nil_iff.mpr fun _ _ => rfl]
  · have hdelivered : s.departures =
        ((s.link.receivedHigh ++ s.link.receivedLow).take 1).map .delivered := by
      simp [departures, hpresent]
    have hall : s.departures.filter Departure.isDelivered = s.departures := by
      rw [hdelivered, List.filter_eq_self]
      exact List.forall_mem_map.mpr fun _ _ => rfl
    rw [hall, hdelivered, List.flatMap_map]
    rfl

theorem delivered_mem_departures_iff (now : Instant) (s : Station σ) (p : Packet) :
    .delivered p ∈ s.departures ↔ ∃ id, (id, p) ∈ handed (s.callsIn reg [.deliver now]) := by
  rw [handed_deliver]
  constructor
  · intro hmem
    -- Somebody is there, for otherwise nothing is booked as delivered.
    obtain ⟨entry, hentry⟩ : ∃ entry, entry ∈ s.listeners.entries := by
      apply List.exists_mem_of_ne_nil
      intro hnobody
      unfold departures at hmem
      rw [hnobody] at hmem
      cases hpolicy : s.link.tuning.unobserved <;> simp [hpolicy] at hmem
    refine ⟨entry.1, List.mem_flatMap.mpr ⟨.delivered p, ?_, List.mem_map_of_mem hentry⟩⟩
    exact List.mem_filter.mpr ⟨hmem, rfl⟩
  · rintro ⟨id, hhanded⟩
    obtain ⟨d, hmem, hentry⟩ := List.mem_flatMap.mp hhanded
    obtain ⟨hmem, hdelivered⟩ := List.mem_filter.mp hmem
    obtain ⟨entry, -, hsame⟩ := List.mem_map.mp hentry
    cases hsame
    cases d with
    | delivered => exact hmem
    | discarded => cases hdelivered

theorem delivered_mem_account_iff (s : Station σ) (k : Account) (acts : List Act) (p : Packet) :
    .delivered p ∈ (s.account reg k acts).departed ↔
      .delivered p ∈ k.departed ∨ ∃ id, (id, p) ∈ handed (s.callsIn reg acts) := by
  induction acts generalizing s k with
  | nil => simp [account, handed]
  | cons a rest ih =>
      have hnow : .delivered p ∈ (k.after s a).departed ↔
          .delivered p ∈ k.departed ∨ ∃ id, (id, p) ∈ handed (a.calls s) := by
        cases a with
        | deliver now =>
            rw [Account.after, List.mem_append, delivered_mem_departures_iff reg now,
              callsIn_deliver, Act.calls]
        | _ => simp [Account.after, Act.calls, handed]
      rw [account, ih, hnow, callsIn_cons, handed_append]
      simp only [List.mem_append, exists_or, or_assoc]

/--
No received packet is lost, doubled or moved within its class, whatever the callbacks of the
listeners do: it waits, was delivered, or was discarded in a cycle that started with no listener.
The delivered packets are those that the listeners were handed, each by one cycle to all who were
there at its start.
-/
theorem received_conserved (engine : TeachIn.Engine σ) (tuning : Tuning) (listeners : ListenerSet)
    (receivers : Nat) (acts : List Act) :
    let start := fresh engine tuning listeners receivers
    let s := start.run reg acts
    let counters := s.link.counters
    counters.framesReceived = counters.delivered + counters.discardedUnobserved +
        s.link.receivedHigh.length + s.link.receivedLow.length ∧
      (start.account reg {} acts).Balances s.link.inbox ∧
      (∀ a, counters.discardedUnobserved <
          (s.act reg a).link.counters.discardedUnobserved →
        s.link.tuning.unobserved = .drop ∧ s.listeners.entries = [] ∧ ∃ now, a = .deliver now) ∧
      (∀ p, .delivered p ∈ (start.account reg {} acts).departed ↔
        ∃ id, (id, p) ∈ handed (start.callsIn reg acts)) ∧
      ∀ now, handed (s.callsIn reg [.deliver now]) =
        (s.departures.filter Departure.isDelivered).flatMap fun d =>
          s.listeners.entries.map fun entry => (entry.1, d.packet) := by
  intro start s counters
  have hbalances : (start.account reg {} acts).Balances s.link.inbox :=
    balances_account reg (balances_fresh engine tuning listeners receivers) acts
  refine ⟨hbalances.received_eq, hbalances, ?_, ?_, fun now => handed_deliver reg now s⟩
  · intro a hgrows
    apply Account.discards_of_after (k := start.account reg {} acts)
    rw [← hbalances.discarded, ← (hbalances.of_after reg a).discarded]
    exact hgrows
  · intro p
    rw [delivered_mem_account_iff]
    exact or_iff_right List.not_mem_nil

end Station

end Esp3Host
