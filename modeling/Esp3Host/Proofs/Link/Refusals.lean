import Esp3Host.Proofs.Link.Ordinary

/-!
# Refused frames

A frame that the line refuses counts as written: it uses up an attempt, holds the permit and starts
the response timeout as any other.  Two runs that differ only in when the line refuses frames
therefore differ only in what is on the line, in the count of refusals and in the journal.
-/

namespace Esp3Host

/-! ## Apart from the line -/

def Event.turnsLine : Event → Bool
  | .lineFails _ => true
  | .send _ _ _ | .receive _ _ | .cycle _ => false

def Occurrence.offLine (o : Occurrence) : Occurrence :=
  { o with writes := o.writes.map fun w => { w with taken := true } }

namespace Link

/-- The link without its line, the count of its refusals and the journal. -/
def offLine (l : Link) : Link :=
  { l with
    line := {}
    counters := { l.counters with writeErrors := 0 }
    journal := {} }

variable {l m : Link}

theorem offLine_eq_iff :
    l.offLine = m.offLine ↔
      l.ordinary = m.ordinary ∧ l.sendHigh = m.sendHigh ∧
        l.counters.sentHigh = m.counters.sentHigh := by
  constructor
  · intro h
    have hordinary (l : Link) : l.offLine.ordinary = l.ordinary := rfl
    have hhigh (l : Link) : l.offLine.sendHigh = l.sendHigh := rfl
    have hcount (l : Link) : l.offLine.counters.sentHigh = l.counters.sentHigh := rfl
    rw [← hordinary, ← hhigh, ← hcount, h]
    exact ⟨rfl, rfl, rfl⟩
  · rintro ⟨hordinary, hhigh, hcount⟩
    have hback (l : Link) : l.offLine = { l.ordinary with
        sendHigh := l.sendHigh
        counters := { l.ordinary.counters with sentHigh := l.counters.sentHigh } } := rfl
    rw [hback, hback m, hordinary, hhigh, hcount]

theorem offLine_writeHigh (item : Item) :
    (l.writeHigh item).offLine = (l.offLine.writeHigh item).offLine := by
  rw [writeHigh_eq, writeHigh_eq l.offLine]
  rfl

theorem offLine_sendWith (attempts : Nat) (priority : Priority) (p : Packet) :
    (l.sendWith attempts priority p).offLine =
      (l.offLine.sendWith attempts priority p).offLine := by
  rw [sendWith_eq, sendWith_eq l.offLine]
  rfl

theorem offLine_receive (source : Assembler) (bytes : Bytes) :
    (l.receive source bytes).2.2.offLine = (l.offLine.receive source bytes).2.2.offLine := by
  rw [receive_eq, receive_eq l.offLine]
  rfl

theorem cycle_offLine (h : l.offLine = m.offLine) (now : Instant) :
    Prod.map id offLine (l.cycle now) = Prod.map id offLine (m.cycle now) := by
  obtain ⟨hordinary, hhigh, hcount⟩ := offLine_eq_iff.mp h
  cases hqueue : l.sendHigh with
  | cons item rest =>
      have hrest : { l with sendHigh := rest }.offLine = { m with sendHigh := rest }.offLine :=
        congrArg (fun side : Link => { side with sendHigh := rest }) h
      simp only [cycle, hqueue, hhigh ▸ hqueue]
      refine Prod.ext rfl ?_
      change ({ l with sendHigh := rest }.writeHigh item).offLine =
        ({ m with sendHigh := rest }.writeHigh item).offLine
      rw [offLine_writeHigh, hrest, ← offLine_writeHigh]
  | nil =>
      have hcalm : m.sendHigh = [] := hhigh.symm.trans hqueue
      obtain ⟨houtcome, hside⟩ := Prod.ext_iff.mp (cycle_congr hqueue hcalm hordinary now)
      obtain ⟨hfirst, hfirstCount⟩ := (l.turn_cycle now).urgent_eq hqueue
      obtain ⟨hsecond, hsecondCount⟩ := (m.turn_cycle now).urgent_eq hcalm
      refine Prod.ext houtcome (offLine_eq_iff.mpr ⟨hside, hfirst.trans hsecond.symm, ?_⟩)
      exact hfirstCount.trans (hcount.trans hsecondCount.symm)

end Link

namespace Traffic

/-- Two runs that may differ in which frames the line refuses. -/
structure Alike (s t : Traffic) : Prop where
  offLine : s.link.offLine = t.link.offLine
  sources : s.sources = t.sources

namespace Alike

variable {s t : Traffic} {e : Event}

theorem of_turnsLine (h : Alike s t) (hturns : e.turnsLine = true) : Alike (s.step e) t := by
  cases e with
  | lineFails failing => exact ⟨h.offLine, h.sources⟩
  | send | receive | cycle => cases hturns

theorem of_other (h : Alike s t) (hother : e.turnsLine = false) :
    (s.occur e).offLine = (t.occur e).offLine ∧ Alike (s.step e) (t.step e) := by
  obtain ⟨l, sources⟩ := s
  obtain ⟨m, others⟩ := t
  obtain ⟨hlink, rfl⟩ : l.offLine = m.offLine ∧ sources = others := ⟨h.offLine, h.sources⟩
  cases e with
  | lineFails => cases hother
  | send attempts priority p =>
      refine ⟨rfl, ?_, rfl⟩
      simp only [step]
      rw [Link.offLine_sendWith, hlink, ← Link.offLine_sendWith]
  | receive source bytes =>
      refine ⟨rfl, ?_, rfl⟩
      simp only [step]
      rw [Link.offLine_receive, hlink, ← Link.offLine_receive]
  | cycle now =>
      obtain ⟨houtcome, hnext⟩ := Prod.ext_iff.mp (Link.cycle_offLine hlink now)
      have hsame : (l.cycle now).1 = (m.cycle now).1 := houtcome
      obtain ⟨hordinary, hhigh, -⟩ := Link.offLine_eq_iff.mp hlink
      have hpackets := CycleOutcome.packets_congr hhigh hordinary (m.cycle now).1
      refine ⟨?_, hnext, rfl⟩
      simp [occur, reply, writes, Occurrence.offLine, hsame, hpackets]

theorem trace (h : Alike s t) (events : List Event) :
    ((s.trace events).filter (!·.event.turnsLine)).map Occurrence.offLine =
        (t.trace (events.filter (!·.turnsLine))).map Occurrence.offLine ∧
      Alike (s.run events) (t.run (events.filter (!·.turnsLine))) := by
  have hevents : ((s.trace events).filter (!·.event.turnsLine)).map Occurrence.event =
      events.filter (!·.turnsLine) := s.map_event_filter events (!·.turnsLine)
  obtain ⟨hseen, hend⟩ := trace_kept Alike (!·.event.turnsLine) Occurrence.offLine
    (fun _ _ _ h hturns => h.of_turnsLine (by simpa [occur] using hturns))
    (fun _ _ _ h hother => h.of_other (by simpa [occur] using hother)) h events
  rw [hevents] at hseen hend
  exact ⟨hseen, hend⟩

end Alike

/--
Two runs of the same sends, received bytes and cycles, with any refusals in each: every event gives
the same reply and writes the same packet, and both end with the same queues, permit, exchange in
flight and counters, that of refusals apart.  In each run the line has the frames of the packets
that it took, in order, and every other write is counted as refused.
-/
theorem refusals_stay_on_line (t : Traffic) (first second : List Event)
    (hsame : first.filter (!·.turnsLine) = second.filter (!·.turnsLine)) :
    let seen (events : List Event) :=
      ((t.trace events).filter (!·.event.turnsLine)).map Occurrence.offLine
    seen first = seen second ∧
      (t.run first).link.offLine = (t.run second).link.offLine ∧
      (t.run first).sources = (t.run second).sources ∧
      ∀ events,
        (t.run events).link.line.frames =
            t.link.line.frames ++ (Write.takenPackets (t.written events)).map Packet.encode ∧
          (t.run events).link.counters.writeErrors =
            t.link.counters.writeErrors + Write.refusals (t.written events) := by
  intro seen
  obtain ⟨hfirst, hfirstEnd⟩ := Alike.trace (s := t) (t := t) ⟨rfl, rfl⟩ first
  obtain ⟨hsecond, hsecondEnd⟩ := Alike.trace (s := t) (t := t) ⟨rfl, rfl⟩ second
  rw [← hsame] at hsecond hsecondEnd
  exact ⟨hfirst.trans hsecond.symm, hfirstEnd.offLine.trans hsecondEnd.offLine.symm,
    hfirstEnd.sources.trans hsecondEnd.sources.symm, t.line_run⟩

theorem refusals_stay_on_line_resend :
    let p := Packet.sealed .commonCommand [0x03] []
    let t := fresh {}
    let first : List Event := [.send 2 .low p, .cycle 0, .cycle 500000000]
    let second : List Event := [.send 2 .low p, .cycle 0, .lineFails true, .cycle 500000000]
    first.filter (!·.turnsLine) = second.filter (!·.turnsLine) ∧
      (t.run first).link.offLine = (t.run second).link.offLine ∧
      (t.run first).link.line.frames = [p.encode, p.encode] ∧
      (t.run second).link.line.frames = [p.encode] ∧
      (t.run second).link.counters.writeErrors = 1 := by
  intro p t first second
  obtain ⟨-, hlink, -, hline⟩ := refusals_stay_on_line t first second rfl
  obtain ⟨hfirst, -⟩ := hline first
  obtain ⟨hsecond, hrefused⟩ := hline second
  have hboth : Write.takenPackets (t.written first) = [p, p] := by
    decide +kernel
  have hone : Write.takenPackets (t.written second) = [p] ∧
      Write.refusals (t.written second) = 1 := by
    decide +kernel
  rw [hboth] at hfirst
  rw [hone.1] at hsecond
  rw [hone.2] at hrefused
  exact ⟨rfl, hlink, hfirst, hsecond, hrefused⟩

end Traffic

end Esp3Host
