import Esp3Host.Proofs.Link.Handed
import Esp3Host.Proofs.Link.Traffic

/-!
# Traces

A run as it is seen from outside: every event with what it gives back to its caller and with the
packet that it hands to the line, taken or refused.  The frames on the line are those of the packets
that were taken, in the order of the trace, and every refusal is counted.
-/

namespace Esp3Host

/--
The packet that a cycle with this outcome writes: the first urgent one, the first one with attempts
left, or once more the one in flight.
-/
def CycleOutcome.packets (outcome : CycleOutcome) (l : Link) : List Packet :=
  match outcome with
  | sentHigh => (l.sendHigh.head?.map Item.packet).toList
  | sentLow => ((l.sendLow.find? (0 < ·.attemptsLeft)).map Item.packet).toList
  | retransmitted => (l.outstanding.map (·.item.packet)).toList
  | idle | waiting | gaveUp => []

theorem CycleOutcome.packets_of_spent {l : Link} {spent rest : List Item} {item : Item}
    (hlow : l.sendLow = spent ++ item :: rest) (hspent : ∀ item ∈ spent, item.attemptsLeft = 0)
    (hleft : 0 < item.attemptsLeft) : sentLow.packets l = [item.packet] := by
  have hnone : spent.find? (0 < ·.attemptsLeft) = none := by
    simpa using hspent
  have hfirst : l.sendLow.find? (0 < ·.attemptsLeft) = some item := by
    rw [hlow, List.find?_append, hnone]
    simp [hleft]
  rw [packets, hfirst]
  rfl

theorem Link.Turn.frames_eq {l next : Link} {now : Instant} {outcome : CycleOutcome}
    (hturn : l.Turn now outcome next) :
    outcome.frames l next = (outcome.packets l).map Packet.encode := by
  cases hturn with
  | urgent item rest hhigh => simp [CycleOutcome.frames, CycleOutcome.packets, hhigh]
  | alone | waiting | gaveUp | idle => rfl
  | resent current hhigh hheld hout =>
      rw [resend_eq]
      simp [CycleOutcome.frames, CycleOutcome.packets, hout]
  | started spent item rest hhigh hfree hlow hspent hleft =>
      rw [beginExchange_eq]
      simp [CycleOutcome.frames, CycleOutcome.packets_of_spent hlow hspent hleft]

/-! ## What is seen of an event -/

inductive Reply where
  | done
  | queued (count : Nat)
  | turned (outcome : CycleOutcome)
  deriving DecidableEq, Repr

structure Write where
  packet : Packet
  taken : Bool
  deriving DecidableEq, Repr

namespace Write

def takenPackets (writes : List Write) : List Packet := (writes.filter taken).map packet

def refusals (writes : List Write) : Nat := writes.countP (!·.taken)

theorem takenPackets_append (first second : List Write) :
    takenPackets (first ++ second) = takenPackets first ++ takenPackets second := by
  simp [takenPackets]

theorem refusals_append (first second : List Write) :
    refusals (first ++ second) = refusals first + refusals second :=
  List.countP_append

theorem takenPackets_map (packets : List Packet) (taken : Bool) :
    takenPackets (packets.map (⟨·, taken⟩)) = if taken then packets else [] := by
  cases taken <;> simp [takenPackets, Function.comp_def, List.filter_map]

theorem refusals_map (packets : List Packet) (taken : Bool) :
    refusals (packets.map (⟨·, taken⟩)) = if taken then 0 else packets.length := by
  cases taken <;> simp [refusals, Function.comp_def, List.countP_map]

end Write

structure Occurrence where
  event : Event
  reply : Reply
  writes : List Write

namespace Traffic

def reply (t : Traffic) : Event → Reply
  | .receive source bytes => .queued (t.link.receive (t.sources source) bytes).1
  | .cycle now => .turned (t.link.cycle now).1
  | .send _ _ _ | .lineFails _ => .done

def writes (t : Traffic) : Event → List Write
  | .cycle now => ((t.link.cycle now).1.packets t.link).map (⟨·, !t.link.line.failing⟩)
  | .send _ _ _ | .receive _ _ | .lineFails _ => []

def occur (t : Traffic) (e : Event) : Occurrence := ⟨e, t.reply e, t.writes e⟩

def trace (t : Traffic) : List Event → List Occurrence
  | [] => []
  | e :: rest => t.occur e :: (t.step e).trace rest

def written (t : Traffic) (events : List Event) : List Write :=
  (t.trace events).flatMap Occurrence.writes

theorem written_cons (t : Traffic) (e : Event) (rest : List Event) :
    t.written (e :: rest) = t.writes e ++ (t.step e).written rest := by
  simp [written, trace, occur]

theorem map_event_trace (t : Traffic) (events : List Event) :
    (t.trace events).map Occurrence.event = events := by
  induction events generalizing t with
  | nil => rfl
  | cons e rest ih => rw [trace, List.map_cons, ih]; rfl

theorem map_event_filter (t : Traffic) (events : List Event) (keep : Event → Bool) :
    ((t.trace events).filter fun o => keep o.event).map Occurrence.event = events.filter keep := by
  have hevents := congrArg (List.filter keep) (t.map_event_trace events)
  rw [List.filter_map] at hevents
  exact hevents

/-! ## Runs side by side -/

/--
A run, and the run of a part of its events.  A relation that an event outside that part keeps by
itself, and the other events keep on both sides at once, makes both runs look the same.
-/
theorem trace_kept {α : Type} (R : Traffic → Traffic → Prop) (keep : Occurrence → Bool)
    (view : Occurrence → α)
    (hskip : ∀ s t e, R s t → keep (s.occur e) = false → R (s.step e) t)
    (hkeep : ∀ s t e, R s t → keep (s.occur e) = true →
      view (s.occur e) = view (t.occur e) ∧ R (s.step e) (t.step e))
    {s t : Traffic} (h : R s t) (events : List Event) :
    let kept := (s.trace events).filter keep
    kept.map view = (t.trace (kept.map Occurrence.event)).map view ∧
      R (s.run events) (t.run (kept.map Occurrence.event)) := by
  induction events generalizing s t with
  | nil => exact ⟨rfl, h⟩
  | cons e rest ih =>
      rw [trace, List.filter_cons]
      cases hkept : keep (s.occur e) with
      | false => exact ih (hskip s t e h hkept)
      | true =>
          obtain ⟨hoccur, hnext⟩ := hkeep s t e h hkept
          obtain ⟨htrace, hend⟩ := ih hnext
          refine ⟨?_, hend⟩
          change view (s.occur e) :: _ = view (t.occur e) :: _
          rw [hoccur, htrace]
          rfl

/-! ## The line -/

theorem line_step (t : Traffic) (e : Event) :
    (t.step e).link.line.frames =
        t.link.line.frames ++ (Write.takenPackets (t.writes e)).map Packet.encode ∧
      (t.step e).link.counters.writeErrors =
        t.link.counters.writeErrors + Write.refusals (t.writes e) := by
  cases e with
  | send attempts priority p =>
      rw [step, Link.sendWith_eq]
      simp [writes, Write.takenPackets, Write.refusals]
  | receive source bytes =>
      obtain ⟨hsame, -⟩ := t.link.receive_sameSending (t.sources source) bytes
      simp [step, hsame.line, hsame.writeErrors, writes, Write.takenPackets, Write.refusals]
  | lineFails failing => simp [step, writes, Write.takenPackets, Write.refusals]
  | cycle now =>
      have hturn := t.link.turn_cycle now
      obtain ⟨hframes, herrors⟩ := hturn.line_eq
      rw [hturn.frames_eq] at hframes herrors
      rw [writes, Write.takenPackets_map, Write.refusals_map, step, hframes, herrors]
      cases t.link.line.failing <;> simp

theorem line_run (t : Traffic) (events : List Event) :
    (t.run events).link.line.frames =
        t.link.line.frames ++ (Write.takenPackets (t.written events)).map Packet.encode ∧
      (t.run events).link.counters.writeErrors =
        t.link.counters.writeErrors + Write.refusals (t.written events) := by
  induction events generalizing t with
  | nil => simp [run, written, trace, Write.takenPackets, Write.refusals]
  | cons e rest ih =>
      obtain ⟨hframes, herrors⟩ := t.line_step e
      obtain ⟨hlater, hcounted⟩ := ih (t.step e)
      rw [written_cons, Write.takenPackets_append, Write.refusals_append, List.map_append,
        ← List.append_assoc, ← Nat.add_assoc, ← hframes, ← herrors]
      exact ⟨hlater, hcounted⟩

end Traffic

end Esp3Host
