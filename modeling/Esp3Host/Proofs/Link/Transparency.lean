import Esp3Host.Proofs.Link.Ordinary

/-!
# Urgent packets are transparent

Take the events that queue or write an urgent packet out of a run.  Every event that is left gives
the same reply and writes the same packet as before, and the links after both runs have the same
ordinary side.  So urgent packets take cycles, but neither the permit nor an attempt nor any time
that is measured from a write.
-/

namespace Esp3Host

def Occurrence.isUrgent (o : Occurrence) : Bool :=
  match o.event, o.reply with
  | .send _ .high _, _ => true
  | .cycle _, .turned outcome => outcome = .sentHigh
  | _, _ => false

theorem Link.Turn.failing_eq {l next : Link} {now : Instant} {outcome : CycleOutcome}
    (hturn : l.Turn now outcome next) : next.line.failing = l.line.failing := by
  rw [hturn.next_eq]

namespace Traffic

/-- A state of a run without urgent packets, and one of a run with them. -/
structure Beside (quiet busy : Traffic) : Prop where
  calm : quiet.link.sendHigh = []
  ordinary : quiet.link.ordinary = busy.link.ordinary
  sources : quiet.sources = busy.sources
  failing : quiet.link.line.failing = busy.link.line.failing

namespace Beside

variable {quiet busy : Traffic} {e : Event}

theorem of_urgent (h : Beside quiet busy) (hurgent : (busy.occur e).isUrgent = true) :
    Beside quiet (busy.step e) := by
  cases e with
  | receive | lineFails => cases hurgent
  | send attempts priority p =>
      cases priority with
      | low => cases hurgent
      | high =>
          refine ⟨h.calm, ?_, h.sources, h.failing⟩
          rw [step, Link.ordinary_sendWith, h.ordinary]
          simp
  | cycle now =>
      have hturn := busy.link.turn_cycle now
      refine ⟨h.calm, ?_, h.sources, h.failing.trans hturn.failing_eq.symm⟩
      have houtcome : (busy.link.cycle now).1 = .sentHigh := of_decide_eq_true hurgent
      rw [h.ordinary, step]
      rw [houtcome] at hturn
      generalize (busy.link.cycle now).2 = next at hturn ⊢
      cases hturn with
      | urgent item rest hhigh =>
          rw [Link.ordinary_writeHigh]
          rfl

theorem of_cycle (h : Beside quiet busy) {now : Instant}
    (hother : (busy.link.cycle now).1 ≠ .sentHigh) :
    busy.occur (.cycle now) = quiet.occur (.cycle now) ∧
      Beside (quiet.step (.cycle now)) (busy.step (.cycle now)) := by
  have hturn := quiet.link.turn_cycle now
  have hcalm := (busy.link.turn_cycle now).sendHigh_eq_nil_iff.mpr hother
  obtain ⟨houtcome, hordinary⟩ :=
    Prod.ext_iff.mp (Link.cycle_congr h.calm hcalm h.ordinary now)
  have hsame : (quiet.link.cycle now).1 = (busy.link.cycle now).1 := houtcome
  have hpackets := CycleOutcome.packets_congr (h.calm.trans hcalm.symm) h.ordinary
    (busy.link.cycle now).1
  constructor
  · simp only [occur, reply, writes, hsame, hpackets, h.failing]
  · exact ⟨(hturn.urgent_eq h.calm).1, hordinary, h.sources,
      hturn.failing_eq.trans (h.failing.trans (busy.link.turn_cycle now).failing_eq.symm)⟩

theorem of_ordinary (h : Beside quiet busy) (hordinary : (busy.occur e).isUrgent = false) :
    busy.occur e = quiet.occur e ∧ Beside (quiet.step e) (busy.step e) := by
  cases e with
  | send attempts priority p =>
      cases priority with
      | high => cases hordinary
      | low =>
          refine ⟨rfl, ?_, ?_, h.sources, ?_⟩
          · rw [step, Link.sendWith_eq]
            simpa using h.calm
          · rw [step, step, Link.ordinary_sendWith, Link.ordinary_sendWith, h.ordinary]
          · rw [step, step, Link.sendWith_eq, Link.sendWith_eq]
            exact h.failing
  | receive source bytes =>
      have hsources := h.sources
      obtain ⟨link, sources⟩ := quiet
      obtain rfl : sources = busy.sources := hsources
      obtain ⟨hsame, -⟩ := link.receive_sameSending (busy.sources source) bytes
      obtain ⟨hbusy, -⟩ := busy.link.receive_sameSending (busy.sources source) bytes
      refine ⟨rfl, ?_, ?_, rfl, ?_⟩
      · exact hsame.sendHigh.trans h.calm
      · simp only [step]
        rw [Link.ordinary_receive, h.ordinary, ← Link.ordinary_receive]
      · simp only [step, hsame.line, hbusy.line]
        exact h.failing
  | cycle now => exact h.of_cycle (of_decide_eq_false hordinary)
  | lineFails failing => exact ⟨rfl, h.calm, h.ordinary, h.sources, rfl⟩

end Beside

/--
The run that is left without its urgent sends and without the cycles that wrote an urgent packet
gives every other reply and makes every other write of the whole run, and both end with the same
ordinary side: low-priority queue, permit, exchange in flight, received packets and the counters of
all of them.  The frames on the line are those of the writes in each trace.
-/
theorem urgent_transparent (t : Traffic) (hcalm : t.link.sendHigh = []) (events : List Event) :
    let trace := t.trace events
    let kept := trace.filter (!·.isUrgent)
    let busy := t.run events
    let quiet := t.run (kept.map Occurrence.event)
    t.trace (kept.map Occurrence.event) = kept ∧
      quiet.link.ordinary = busy.link.ordinary ∧
      quiet.link.sendHigh = [] ∧
      quiet.sources = busy.sources ∧
      busy.link.line.frames = t.link.line.frames ++
        (Write.takenPackets (trace.flatMap Occurrence.writes)).map Packet.encode ∧
      quiet.link.line.frames = t.link.line.frames ++
        (Write.takenPackets (kept.flatMap Occurrence.writes)).map Packet.encode := by
  intro trace kept busy quiet
  have hstart : Beside t t := ⟨hcalm, rfl, rfl, rfl⟩
  obtain ⟨hseen, hend⟩ := trace_kept (fun busy quiet => Beside quiet busy) (!·.isUrgent) id
    (fun _ _ _ h hurgent => h.of_urgent (by simpa using hurgent))
    (fun _ _ _ h hordinary => h.of_ordinary (by simpa using hordinary)) hstart events
  have hkept : t.trace (kept.map Occurrence.event) = kept := by
    rw [List.map_id, List.map_id] at hseen
    exact hseen.symm
  refine ⟨hkept, hend.ordinary, hend.calm, hend.sources, (t.line_run events).1, ?_⟩
  have hframes := (t.line_run (kept.map Occurrence.event)).1
  rw [written, hkept] at hframes
  exact hframes

theorem urgent_transparent_overdue :
    let p := Packet.sealed .commonCommand [0x03] []
    let urgent := CommonCommand.writeReset.packet
    let t := fresh {}
    let events : List Event := [.send 2 .low p, .cycle 0, .send 2 .high urgent, .cycle 500000000,
      .cycle 500000000]
    let kept := (t.trace events).filter (!·.isUrgent)
    kept.map Occurrence.reply = [.done, .turned .sentLow, .turned .retransmitted] ∧
      t.trace (kept.map Occurrence.event) = kept ∧
      (t.run events).link.line.frames = [p.encode, urgent.encode, p.encode] ∧
      (t.run (kept.map Occurrence.event)).link.line.frames = [p.encode, p.encode] := by
  intro p urgent t events kept
  obtain ⟨hkept, -, -, -, hbusy, hquiet⟩ := urgent_transparent t rfl events
  have hall : Write.takenPackets ((t.trace events).flatMap Occurrence.writes) = [p, urgent, p] := by
    decide +kernel
  have hleft : Write.takenPackets (kept.flatMap Occurrence.writes) = [p, p] := by
    decide +kernel
  rw [hall] at hbusy
  rw [hleft] at hquiet
  exact ⟨by decide +kernel, hkept, hbusy, hquiet⟩

end Traffic

end Esp3Host
