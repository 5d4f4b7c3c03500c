import Esp3Host.Proofs.Link.Intake
import Esp3Host.Proofs.Link.Trace
import Esp3Host.Proofs.Stream.Assembly
import Esp3Host.Proofs.Stream.Chunks
import Mathlib.Algebra.BigOperators.Group.Finset.Basic
import Mathlib.Algebra.BigOperators.Group.Multiset.Basic

/-!
# Several sources

The byte sources of a link share its queues, its permit and its counters, and nothing else.  What a
source reports depends on its own bytes alone, however its calls lie between those of the others;
the queues have the packets of all sources in the order in which they arrived, and the counters are
sums over the sources.
-/

namespace Esp3Host

/-! ## Items by source -/

section Tagged

variable {α : Type} (source : Nat)

def ofSource (items : List (Nat × α)) : List α := (items.filter (·.1 = source)).map Prod.snd

theorem ofSource_append (first second : List (Nat × α)) :
    ofSource source (first ++ second) = ofSource source first ++ ofSource source second := by
  simp [ofSource]

theorem ofSource_tagged (other : Nat) (items : List α) :
    ofSource source (items.map (other, ·)) = if other = source then items else [] := by
  by_cases hother : other = source <;> simp [ofSource, List.filter_map, Function.comp_def, hother]

theorem ofSource_filter (keep : α → Bool) (items : List (Nat × α)) :
    ofSource source (items.filter fun item => keep item.2) =
      (ofSource source items).filter keep := by
  simp [ofSource, List.filter_map, List.filter_filter, Function.comp_def, Bool.and_comm]

theorem length_eq_sum_ofSource {sources : Finset Nat} {items : List (Nat × α)}
    (hsources : ∀ item ∈ items, item.1 ∈ sources) :
    items.length = ∑ source ∈ sources, (ofSource source items).length := by
  have htagged : ∀ source ∈ (↑(items.map Prod.fst) : Multiset Nat), source ∈ sources := by
    simpa using fun source item hitem => hsources (source, item) hitem
  have hcount (source : Nat) :
      (items.map Prod.fst).count source = (ofSource source items).length := by
    rw [ofSource, List.length_map, ← List.countP_eq_length_filter, List.count, List.countP_map]
    rfl
  simpa [hcount] using (Multiset.sum_count_eq_card htagged).symm

theorem countP_eq_sum_ofSource {sources : Finset Nat} {items : List (Nat × α)}
    (hsources : ∀ item ∈ items, item.1 ∈ sources) (P : α → Bool) :
    (items.map Prod.snd).countP P = ∑ source ∈ sources, (ofSource source items).countP P := by
  have hkept : ∀ item ∈ items.filter fun item => P item.2, item.1 ∈ sources := fun item hitem =>
    hsources item (List.mem_of_mem_filter hitem)
  calc (items.map Prod.snd).countP P
      = (items.filter fun item => P item.2).length := by
        rw [List.countP_map, List.countP_eq_length_filter]
        rfl
    _ = ∑ source ∈ sources, (ofSource source (items.filter fun item => P item.2)).length :=
        length_eq_sum_ofSource hkept
    _ = ∑ source ∈ sources, (ofSource source items).countP P := by
        simp only [ofSource_filter, List.countP_eq_length_filter]

end Tagged

theorem length_accepted (reports : List Report) :
    (accepted reports).length = reports.countP fun report => (Report.packet? report).isSome :=
  List.length_filterMap_eq_countP

def arrivals (intake : List (Nat × Report)) : List (Nat × Packet) :=
  intake.filterMap fun (source, report) => (Report.packet? report).map (source, ·)

theorem map_snd_arrivals (intake : List (Nat × Report)) :
    (arrivals intake).map Prod.snd = accepted (intake.map Prod.snd) := by
  simp [arrivals, accepted, List.map_filterMap, List.filterMap_map, Function.comp_def]

theorem ofSource_arrivals (source : Nat) (intake : List (Nat × Report)) :
    ofSource source (arrivals intake) = accepted (ofSource source intake) := by
  simp only [arrivals, ofSource, accepted, List.filter_filterMap, List.map_filterMap,
    List.filterMap_map, List.filterMap_filter]
  congr 1
  funext ⟨other, report⟩
  cases hfound : Report.packet? report <;> by_cases hother : other = source <;>
    simp [hfound, hother, Option.filter]

theorem perm_of_priority (items : List (Nat × Packet)) :
    (items.filter (·.2.priority = .high) ++ items.filter (·.2.priority = .low)).Perm items := by
  have hlow (p : Packet) : decide (p.priority = .low) = !decide (p.priority = .high) := by
    cases p.priority <;> rfl
  simp only [hlow]
  exact List.filter_append_perm _ items

/-! ## Received so far -/

namespace Link

/-- What receivers leave in a link, the permit and its responses apart. -/
structure Received where
  high : List Packet
  low : List Packet
  frames : Nat
  dropped : Nat

def received (l : Link) : Received where
  high := l.receivedHigh
  low := l.receivedLow
  frames := l.counters.framesReceived
  dropped := l.counters.framesDropped

def Received.add (r : Received) (reports : List Report) : Received where
  high := r.high ++ (accepted reports).filter (·.priority = .high)
  low := r.low ++ (accepted reports).filter (·.priority = .low)
  frames := r.frames + (accepted reports).length
  dropped := r.dropped + reports.countP Report.isFault

@[simp] theorem Received.add_nil (r : Received) : r.add [] = r := by
  simp [add]

theorem Received.add_append (r : Received) (first second : List Report) :
    r.add (first ++ second) = (r.add first).add second := by
  simp [add, accepted, Nat.add_assoc]

theorem received_receive (l : Link) (source : Assembler) (bytes : Bytes) :
    (l.receive source bytes).2.2.received = l.received.add (source.push bytes).2 := by
  rw [receive_eq]
  rfl

theorem Turn.received_eq {l next : Link} {now : Instant} {outcome : CycleOutcome}
    (hturn : l.Turn now outcome next) : next.received = l.received := by
  rw [hturn.next_eq]
  rfl

end Link

/-! ## Bytes and reports of a source -/

namespace Event

def isFrom (source : Nat) : Event → Bool
  | .receive other _ => other = source
  | .send _ _ _ | .cycle _ | .lineFails _ => false

def bytesFrom (source : Nat) : Event → Bytes
  | .receive other bytes => if other = source then bytes else []
  | .send _ _ _ | .cycle _ | .lineFails _ => []

end Event

def streamOf (source : Nat) (events : List Event) : Bytes := events.flatMap (Event.bytesFrom source)

namespace Traffic

def reports (t : Traffic) : Event → List (Nat × Report)
  | .receive source bytes => ((t.sources source).push bytes).2.map (source, ·)
  | .send _ _ _ | .cycle _ | .lineFails _ => []

def intake (t : Traffic) : List Event → List (Nat × Report)
  | [] => []
  | e :: rest => t.reports e ++ (t.step e).intake rest

theorem received_step (t : Traffic) (e : Event) :
    (t.step e).link.received = t.link.received.add ((t.reports e).map Prod.snd) := by
  cases e with
  | send attempts priority p =>
      rw [step, Link.sendWith_eq]
      exact (t.link.received.add_nil).symm
  | receive source bytes =>
      simp only [reports, List.map_map, Function.comp_def, List.map_id']
      exact t.link.received_receive (t.sources source) bytes
  | cycle now =>
      exact (t.link.turn_cycle now).received_eq.trans (t.link.received.add_nil).symm
  | lineFails failing => exact (t.link.received.add_nil).symm

theorem received_run (t : Traffic) (events : List Event) :
    (t.run events).link.received = t.link.received.add ((t.intake events).map Prod.snd) := by
  induction events generalizing t with
  | nil => exact (t.link.received.add_nil).symm
  | cons e rest ih =>
      rw [intake, List.map_append, Link.Received.add_append, ← received_step]
      exact ih (t.step e)

theorem sources_step (t : Traffic) (e : Event) (source : Nat) :
    ((t.step e).sources source, ofSource source (t.reports e)) =
      (t.sources source).push (e.bytesFrom source) := by
  cases e with
  | receive other bytes =>
      rw [reports, ofSource_tagged, Event.bytesFrom]
      by_cases hother : other = source
      · subst hother
        simp [step, Link.receive]
      · simp [step, Ne.symm hother, hother, Assembler.push_nil]
  | send | cycle | lineFails => exact (Assembler.push_nil _).symm

theorem sources_run (t : Traffic) (events : List Event) (source : Nat) :
    ((t.run events).sources source, ofSource source (t.intake events)) =
      (t.sources source).push (streamOf source events) := by
  induction events generalizing t with
  | nil => exact (Assembler.push_nil _).symm
  | cons e rest ih =>
      obtain ⟨hnext, hreports⟩ := Prod.ext_iff.mp (t.sources_step e source)
      obtain ⟨hlast, hlater⟩ := Prod.ext_iff.mp (ih (t.step e))
      simp only at hnext hreports hlast hlater
      rw [streamOf, List.flatMap_cons, Assembler.push_append, intake, ofSource_append, ← hnext,
        hreports, hlater, ← streamOf]
      exact Prod.ext hlast rfl

theorem ofSource_intake (t : Traffic) (events : List Event) (source : Nat) :
    ofSource source (t.intake events) = ((t.sources source).push (streamOf source events)).2 :=
  congrArg Prod.snd (t.sources_run events source)

theorem tag_mem_of_intake {t : Traffic} {events : List Event} {tagged : Nat × Report}
    (h : tagged ∈ t.intake events) : ∃ bytes, .receive tagged.1 bytes ∈ events := by
  induction events generalizing t with
  | nil => cases h
  | cons e rest ih =>
      rcases List.mem_append.mp h with hnow | hlater
      · cases e with
        | receive source bytes =>
            obtain ⟨report, -, rfl⟩ := List.mem_map.mp hnow
            exact ⟨bytes, List.mem_cons_self⟩
        | send | cycle | lineFails => cases hnow
      · obtain ⟨bytes, hbytes⟩ := ih hlater
        exact ⟨bytes, List.mem_cons_of_mem e hbytes⟩

/-! ## Queues and counters -/

theorem queues_run (t : Traffic) (events : List Event) :
    let queued (priority : Priority) :=
      (arrivals (t.intake events)).filter (·.2.priority = priority)
    (t.run events).link.receivedHigh = t.link.receivedHigh ++ (queued .high).map Prod.snd ∧
      (t.run events).link.receivedLow = t.link.receivedLow ++ (queued .low).map Prod.snd := by
  intro queued
  have hqueue (priority : Priority) :
      (accepted ((t.intake events).map Prod.snd)).filter (·.priority = priority) =
        (queued priority).map Prod.snd := by
    rw [← map_snd_arrivals, List.filter_map]
    rfl
  have hreceived := t.received_run events
  rw [← hqueue, ← hqueue]
  exact ⟨congrArg Link.Received.high hreceived, congrArg Link.Received.low hreceived⟩

theorem counters_run (t : Traffic) (events : List Event) {sources : Finset Nat}
    (hsources : ∀ source bytes, .receive source bytes ∈ events → source ∈ sources) :
    let own (source : Nat) := ((t.sources source).push (streamOf source events)).2
    (t.run events).link.counters.framesReceived = t.link.counters.framesReceived +
        ∑ source ∈ sources, (accepted (own source)).length ∧
      (t.run events).link.counters.framesDropped = t.link.counters.framesDropped +
        ∑ source ∈ sources, (own source).countP Report.isFault := by
  intro own
  have htagged : ∀ item ∈ t.intake events, item.1 ∈ sources := by
    intro item hitem
    obtain ⟨bytes, hbytes⟩ := tag_mem_of_intake hitem
    exact hsources item.1 bytes hbytes
  have hown (source : Nat) : own source = ofSource source (t.intake events) :=
    (t.ofSource_intake events source).symm
  have hreceived := t.received_run events
  simp only [hown, length_accepted]
  rw [← countP_eq_sum_ofSource htagged, ← countP_eq_sum_ofSource htagged, ← length_accepted]
  exact ⟨congrArg Link.Received.frames hreceived, congrArg Link.Received.dropped hreceived⟩

/-! ## Sub-runs -/

section

variable {s t : Traffic} {source : Nat} {e : Event}

theorem occur_of_isFrom (h : s.sources source = t.sources source) (hfrom : e.isFrom source = true) :
    s.occur e = t.occur e ∧ (s.reports e).filter (·.1 = source) = t.reports e ∧
      (s.step e).sources source = (t.step e).sources source := by
  cases e with
  | receive other bytes =>
      obtain rfl : other = source := of_decide_eq_true hfrom
      refine ⟨?_, ?_, ?_⟩
      · simp [occur, reply, writes, Link.receive, h]
      · simp [reports, h, List.filter_map, Function.comp_def]
      · simp [step, Link.receive, h]
  | send | cycle | lineFails => cases hfrom

theorem sources_of_not_isFrom (s : Traffic) (hother : e.isFrom source = false) :
    (s.reports e).filter (·.1 = source) = [] ∧ (s.step e).sources source = s.sources source := by
  cases e with
  | receive other bytes =>
      have hne : other ≠ source := of_decide_eq_false hother
      simp [reports, step, hne, hne.symm, List.filter_map, Function.comp_def]
  | send | cycle | lineFails => exact ⟨rfl, rfl⟩

theorem trace_isFrom (h : s.sources source = t.sources source) (events : List Event) :
    (s.trace events).filter (·.event.isFrom source) =
      t.trace (events.filter (·.isFrom source)) := by
  have hevents : ((s.trace events).filter (·.event.isFrom source)).map Occurrence.event =
      events.filter (·.isFrom source) := s.map_event_filter events (·.isFrom source)
  obtain ⟨hseen, -⟩ := trace_kept (fun s t => s.sources source = t.sources source)
    (·.event.isFrom source) id (fun s _ _ h hother => (s.sources_of_not_isFrom hother).2.trans h)
    (fun _ _ _ h hfrom =>
      have ⟨hoccur, _, hnext⟩ := occur_of_isFrom h hfrom
      ⟨hoccur, hnext⟩) h events
  rw [List.map_id, List.map_id, hevents] at hseen
  exact hseen

theorem intake_isFrom (h : s.sources source = t.sources source) (events : List Event) :
    (s.intake events).filter (·.1 = source) = t.intake (events.filter (·.isFrom source)) := by
  induction events generalizing s t with
  | nil => rfl
  | cons e rest ih =>
      rw [intake, List.filter_append, List.filter_cons]
      cases hfrom : e.isFrom source with
      | true =>
          obtain ⟨-, hreports, hnext⟩ := occur_of_isFrom h hfrom
          rw [hreports, ih hnext]
          rfl
      | false =>
          obtain ⟨hreports, hnext⟩ := s.sources_of_not_isFrom hfrom
          rw [hreports, ih (hnext.trans h)]
          rfl

end

/--
However the calls of several sources lie among each other and among the other events of a run, each
source reports what an assembler of its own would report on its bytes, and its calls give the same
replies and reports as without any other event.  Every packet is in the receive queue of its class,
in the order of arrival, so each source's packets are there in the order of its own reports; frames
received and dropped are counted over all sources.
-/
theorem sources_independent (tuning : Tuning) (events : List Event) (sources : Finset Nat)
    (hsources : ∀ source bytes, .receive source bytes ∈ events → source ∈ sources) :
    let t := fresh tuning
    let last := t.run events
    let lone (source : Nat) := Assembler.push {} (streamOf source events)
    let arrived := arrivals (t.intake events)
    let queued (priority : Priority) := arrived.filter (·.2.priority = priority)
    (∀ source,
      (last.sources source, ofSource source (t.intake events)) = lone source ∧
        ofSource source arrived = accepted (lone source).2 ∧
        (∀ priority, ofSource source (queued priority) =
          (accepted (lone source).2).filter (·.priority = priority)) ∧
        (t.trace events).filter (·.event.isFrom source) =
          t.trace (events.filter (·.isFrom source)) ∧
        (t.intake events).filter (·.1 = source) = t.intake (events.filter (·.isFrom source))) ∧
      last.link.receivedHigh = (queued .high).map Prod.snd ∧
      last.link.receivedLow = (queued .low).map Prod.snd ∧
      (queued .high ++ queued .low).Perm arrived ∧
      last.link.counters.framesReceived =
        ∑ source ∈ sources, (accepted (lone source).2).length ∧
      last.link.counters.framesDropped =
        ∑ source ∈ sources, (lone source).2.countP Report.isFault := by
  intro t last lone arrived queued
  have harrived (source : Nat) : ofSource source arrived = accepted (lone source).2 := by
    rw [ofSource_arrivals, ofSource_intake]
    rfl
  have hqueued (source : Nat) (priority : Priority) : ofSource source (queued priority) =
      (accepted (lone source).2).filter (·.priority = priority) := by
    rw [← harrived]
    exact ofSource_filter source (·.priority = priority) arrived
  obtain ⟨hhigh, hlow⟩ := t.queues_run events
  obtain ⟨hframes, hdropped⟩ := t.counters_run events hsources
  exact ⟨fun source => ⟨t.sources_run events source, harrived source, hqueued source,
      trace_isFrom rfl events, intake_isFrom rfl events⟩,
    hhigh, hlow, perm_of_priority arrived,
    hframes.trans (Nat.zero_add _), hdropped.trans (Nat.zero_add _)⟩

theorem sources_independent_interrupted :
    let p := Packet.sealed .commonCommand [0x03] []
    let q := Packet.sealed .response [0x00] []
    let damaged : Bytes := [0x55, 0x00, 0x01, 0x00, 0x02, 0x65, 0x00, 0x01]
    let events : List Event := [.receive 1 (p.encode.take 3), .receive 2 (damaged ++ q.encode),
      .receive 1 (p.encode.drop 3)]
    let t := fresh {}
    let last := t.run events
    ofSource 1 (arrivals (t.intake events)) = [p] ∧
      ofSource 2 (arrivals (t.intake events)) = [q] ∧
      last.link.counters.framesReceived = 2 ∧
      last.link.counters.framesDropped = 1 := by
  intro p q damaged events t last
  obtain ⟨hown, -, -, -, hframes, hdropped⟩ := sources_independent {} events {1, 2} (by
    intro source bytes hreceived
    simp only [events, List.mem_cons, Event.receive.injEq, List.not_mem_nil, or_false] at hreceived
    rcases hreceived with ⟨rfl, -⟩ | ⟨rfl, -⟩ | ⟨rfl, -⟩ <;> decide)
  have hscan (stream : Bytes) : (Assembler.push {} stream).2 = (Scan.scan stream).1 :=
    (Assembler.push_eq_scan Assembler.waiting_empty stream).2.2
  have hfirst : accepted (Scan.scan (streamOf 1 events)).1 = [p] ∧
      (Scan.scan (streamOf 1 events)).1.countP Report.isFault = 0 := by
    decide +kernel
  have hsecond : accepted (Scan.scan (streamOf 2 events)).1 = [q] ∧
      (Scan.scan (streamOf 2 events)).1.countP Report.isFault = 1 := by
    decide +kernel
  simp only [hscan] at hown hframes hdropped
  refine ⟨(hown 1).2.1.trans hfirst.1, (hown 2).2.1.trans hsecond.1, hframes.trans ?_,
    hdropped.trans ?_⟩
  · rw [Finset.sum_pair (by decide), hfirst.1, hsecond.1]
    rfl
  · rw [Finset.sum_pair (by decide), hfirst.2, hsecond.2]

end Traffic

end Esp3Host
