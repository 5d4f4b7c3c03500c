import Esp3Host.Proofs.Link.Trace
import Esp3Host.Proofs.Stream.Pieces
import Esp3Host.TeachIn.Query

/-!
# Reading back what was sent

A transmitter changes the order and the number of packets, but never a packet itself: what it writes
is what was queued.  The frames of such packets in any number are read as these packets, with
nothing left over, so an assembler at the other end of the line gets what the line took.
-/

namespace Esp3Host

/-! ## Packets that a host sends -/

inductive Packet.Composed : Packet → Prop
  | build {kind data optional p} (h : build kind data optional = .ok p) : Composed p
  | radio {rorg payload destination p} (h : radio rorg payload destination = .ok p) : Composed p
  | command (command : CommonCommand) : Composed command.packet
  | answer (query : TeachIn.Query) (code : TeachIn.AnswerCode) (destination : Address) :
      Composed (query.answer code destination)

theorem Packet.Composed.built {p : Packet} (h : p.Composed) : p.Built := by
  cases h with
  | build h => exact ⟨_, _, _, h⟩
  | radio h => exact ⟨_, _, _, h⟩
  | command command => exact ⟨_, _, _, command.build_eq_packet⟩
  | answer query code destination => exact ⟨_, _, _, query.radio_eq_answer code destination⟩

/-! ## What a link carries -/

namespace Link

/-- Every packet that waits to be written, for the first time or again, has a property. -/
structure Carries (P : Packet → Prop) (l : Link) : Prop where
  high : ∀ item ∈ l.sendHigh, P item.packet
  low : ∀ item ∈ l.sendLow, P item.packet
  outstanding : ∀ current, l.outstanding = some current → P current.item.packet

variable {P : Packet → Prop} {l next : Link}

theorem Carries.of_turn {now : Instant} {outcome : CycleOutcome} (h : l.Carries P)
    (hturn : l.Turn now outcome next) : next.Carries P := by
  obtain ⟨hqueued, hlater, hsent⟩ := h
  cases hturn with
  | urgent item rest hhigh =>
      rw [hhigh, List.forall_mem_cons] at hqueued
      rw [writeHigh_eq]
      exact ⟨hqueued.2, hlater, hsent⟩
  | alone | waiting => exact ⟨hqueued, hlater, hsent⟩
  | resent current hhigh hheld hout =>
      rw [resend_eq]
      refine ⟨hqueued, hlater, ?_⟩
      rintro again ⟨⟩
      exact hsent current hout
  | gaveUp current =>
      rw [giveUp_eq]
      exact ⟨hqueued, hlater, nofun⟩
  | idle =>
      rw [dropAll_eq, collect_eq]
      exact ⟨hqueued, nofun, nofun⟩
  | started spent item rest hhigh hfree hlow =>
      rw [hlow, List.forall_mem_append, List.forall_mem_cons] at hlater
      obtain ⟨-, hitem, hrest⟩ := hlater
      rw [beginExchange_eq, dropAll_eq, collect_eq]
      refine ⟨hqueued, hrest, ?_⟩
      rintro current ⟨⟩
      exact hitem

theorem Carries.of_sameSending (h : l.Carries P) (hsame : next.SameSending l) :
    next.Carries P where
  high := hsame.sendHigh ▸ h.high
  low := hsame.sendLow ▸ h.low
  outstanding := hsame.outstanding ▸ h.outstanding

theorem Carries.packets (h : l.Carries P) (outcome : CycleOutcome) :
    ∀ p ∈ outcome.packets l, P p := by
  intro p hp
  cases outcome with
  | sentHigh =>
      simp only [CycleOutcome.packets, Option.mem_toList, Option.map_eq_some_iff] at hp
      obtain ⟨item, hfirst, rfl⟩ := hp
      exact h.high item (List.mem_of_head? hfirst)
  | sentLow =>
      simp only [CycleOutcome.packets, Option.mem_toList, Option.map_eq_some_iff] at hp
      obtain ⟨item, hfirst, rfl⟩ := hp
      exact h.low item (List.mem_of_find?_eq_some hfirst)
  | retransmitted =>
      simp only [CycleOutcome.packets, Option.mem_toList, Option.map_eq_some_iff] at hp
      obtain ⟨current, hout, rfl⟩ := hp
      exact h.outstanding current hout
  | idle | waiting | gaveUp => cases hp

end Link

namespace Traffic

variable {P : Packet → Prop} {t : Traffic}

theorem carries_step (h : t.link.Carries P) {e : Event}
    (hsent : ∀ attempts priority p, e = .send attempts priority p → P p) :
    (t.step e).link.Carries P := by
  cases e with
  | send attempts priority p =>
      have hp := hsent attempts priority p rfl
      obtain ⟨hqueued, hlater, hout⟩ := h
      rw [step, Link.sendWith_eq]
      cases priority with
      | high => exact ⟨by simpa [or_imp, forall_and, hp] using hqueued, by simpa using hlater, hout⟩
      | low => exact ⟨by simpa using hqueued, by simpa [or_imp, forall_and, hp] using hlater, hout⟩
  | receive source bytes =>
      exact h.of_sameSending (t.link.receive_sameSending (t.sources source) bytes).1
  | cycle now => exact h.of_turn (t.link.turn_cycle now)
  | lineFails failing => exact ⟨h.high, h.low, h.outstanding⟩

theorem writes_of_carries (h : t.link.Carries P) (e : Event) : ∀ w ∈ t.writes e, P w.packet := by
  intro w hw
  cases e with
  | cycle now =>
      obtain ⟨p, hp, rfl⟩ := List.mem_map.mp hw
      exact h.packets _ p hp
  | send | receive | lineFails => cases hw

theorem written_of_carries (h : t.link.Carries P) (events : List Event)
    (hsent : ∀ attempts priority p, .send attempts priority p ∈ events → P p) :
    ∀ w ∈ t.written events, P w.packet := by
  induction events generalizing t with
  | nil => exact nofun
  | cons e rest ih =>
      have hnext : (t.step e).link.Carries P := carries_step h fun attempts priority p he =>
        hsent attempts priority p (he ▸ List.mem_cons_self)
      rw [written_cons, List.forall_mem_append]
      exact ⟨writes_of_carries h e, ih hnext fun attempts priority p he =>
        hsent attempts priority p (List.mem_cons_of_mem e he)⟩

theorem carries_fresh (tuning : Tuning) : (fresh tuning).link.Carries P := ⟨nofun, nofun, nofun⟩

/-! ## The other end of the line -/

/--
Whatever is queued, answered and refused in a run: the line has the frames of the packets whose
writes it took, first writes and resends in their order, and an assembler that is fed these frames
in any chunks reports exactly these packets and keeps nothing.
-/
theorem loopback (tuning : Tuning) (events : List Event)
    (hcomposed : ∀ attempts priority p, .send attempts priority p ∈ events → p.Composed)
    (chunks : List Bytes)
    (hstream : chunks.flatten = ((fresh tuning).run events).link.line.frames.flatten) :
    let packets := Write.takenPackets ((fresh tuning).written events)
    ((fresh tuning).run events).link.line.frames = packets.map Packet.encode ∧
      Assembler.pushAll {} chunks = ({}, packets.map .ok) := by
  intro packets
  have hframes : ((fresh tuning).run events).link.line.frames = packets.map Packet.encode :=
    ((fresh tuning).line_run events).1
  have hbuilt : ∀ p ∈ packets, p.Built := by
    intro p hp
    obtain ⟨w, hw, rfl⟩ := List.mem_map.mp hp
    exact written_of_carries (carries_fresh tuning) events
      (fun attempts priority q hq => (hcomposed attempts priority q hq).built) w
      (List.mem_filter.mp hw).1
  rw [hframes] at hstream
  exact ⟨hframes, Assembler.pushAll_frames hbuilt hstream⟩

theorem loopback_resent :
    let p := Packet.sealed .commonCommand [0x55, 0x55, 0x00] []
    let urgent := CommonCommand.writeReset.packet
    let events : List Event := [.send 2 .low p, .cycle 0, .lineFails true, .send 1 .high urgent,
      .cycle 100000000, .lineFails false, .cycle 500000000]
    let chunks := [p.encode.take 3, p.encode.drop 3 ++ p.encode]
    ((fresh {}).run events).link.line.frames = [p.encode, p.encode] ∧
      Assembler.pushAll {} chunks = ({}, [.ok p, .ok p]) := by
  intro p urgent events chunks
  have hcomposed : ∀ attempts priority q, .send attempts priority q ∈ events → q.Composed := by
    intro attempts priority q hq
    simp only [events, List.mem_cons, Event.send.injEq, reduceCtorEq, false_or, or_false,
      List.not_mem_nil] at hq
    rcases hq with ⟨-, -, rfl⟩ | ⟨-, -, rfl⟩
    · exact .build (show Packet.build .commonCommand [0x55, 0x55, 0x00] [] = .ok p from rfl)
    · exact .command .writeReset
  have hstream : chunks.flatten = ((fresh {}).run events).link.line.frames.flatten := by
    decide +kernel
  have htaken : Write.takenPackets ((fresh {}).written events) = [p, p] := by
    decide +kernel
  have hread := loopback {} events hcomposed chunks hstream
  simp only [htaken] at hread
  exact hread

end Traffic

end Esp3Host
