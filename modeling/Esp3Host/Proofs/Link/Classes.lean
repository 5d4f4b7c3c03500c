import Esp3Host.Proofs.Link.Intake
import Esp3Host.Proofs.Stream.Chunks

/-!
# What a receiver makes of a stream

All that a receiver does to a link is told by the reports on its bytes: each packet goes to the end
of the queue of its class and into the counters, each other report into a counter, and a response
frees the permit.  The reports do not depend on how the bytes are cut, and so neither does the link,
up to the notes in its journal.
-/

namespace Esp3Host

/-- An event with which smart acknowledge waits for the host: its code is 1, 2 or 3. -/
def Packet.awaitsHost (p : Packet) : Bool :=
  p.kind = .event ∧ (p.data.head? = some 1 ∨ p.data.head? = some 2 ∨ p.data.head? = some 3)

theorem Packet.priority_eq_high (p : Packet) : decide (p.priority = .high) = p.awaitsHost := by
  rw [awaitsHost, decide_eq_decide, priority_eq_high_iff]
  cases p.data with
  | nil => simp
  | cons code rest =>
      simp only [List.head?_cons, Option.some.injEq, List.cons.injEq, ← UInt8.toNat_inj]
      refine and_congr_right fun _ => ⟨?_, fun h => ⟨code, rest, ⟨rfl, rfl⟩, h⟩⟩
      rintro ⟨same, _, ⟨hcode, -⟩, h⟩
      rwa [hcode]

theorem Packet.priority_eq_low (p : Packet) : decide (p.priority = .low) = !p.awaitsHost := by
  rw [← priority_eq_high]
  cases p.priority <;> rfl

/-! ## Reports -/

theorem packetCount_eq (reports : List Report) :
    packetCount reports = (accepted reports).length := by
  rw [accepted, List.length_filterMap_eq_countP, packetCount]
  congr 1
  funext report
  cases report <;> rfl

theorem countP_isResponse (reports : List Report) :
    reports.countP Report.isResponse = (accepted reports).countP (·.kind = .response) := by
  rw [accepted, List.countP_filterMap]
  congr 1
  funext report
  cases report <;> rfl

theorem any_isResponse (reports : List Report) :
    reports.any Report.isResponse = (accepted reports).any (·.kind = .response) := by
  rw [accepted, List.any_filterMap]
  congr 1
  funext report
  cases report <;> rfl

theorem accepted_append (first second : List Report) :
    accepted (first ++ second) = accepted first ++ accepted second :=
  List.filterMap_append

namespace Link

/-- The link after these reports, up to its journal. -/
def told (l : Link) (reports : List Report) : Link :=
  { l with
    receivedHigh := l.receivedHigh ++ (accepted reports).filter (·.awaitsHost)
    receivedLow := l.receivedLow ++ (accepted reports).filter (!·.awaitsHost)
    permitHeld := l.permitHeld && !(accepted reports).any (·.kind = .response)
    counters := { l.counters with
      framesReceived := l.counters.framesReceived + (accepted reports).length
      framesDropped := l.counters.framesDropped + reports.countP Report.isFault
      responsesReceived :=
        l.counters.responsesReceived + (accepted reports).countP (·.kind = .response) } }

theorem told_nil (l : Link) : l.told [] = l := by
  simp [told]

theorem told_append (l : Link) (first second : List Report) :
    l.told (first ++ second) = (l.told first).told second := by
  simp [told, accepted_append, List.countP_append, Nat.add_assoc, Bool.and_assoc]

theorem receive_eq_told (l : Link) (source : Assembler) (bytes : Bytes) :
    (l.receive source bytes).2.2 =
      { l.told (source.push bytes).2 with journal := (l.receive source bytes).2.2.journal } := by
  rw [receive_eq, told]
  simp only [Packet.priority_eq_high, Packet.priority_eq_low, any_isResponse, countP_isResponse]

/-! ## Notes -/

/-- Nothing but notes is added to the journal. -/
def OnlyNotes (l next : Link) : Prop :=
  ∃ notes : List Note, next.journal.entries = l.journal.entries ++ notes.map .note

namespace OnlyNotes

variable {a b c : Link}

theorem refl (l : Link) : OnlyNotes l l := ⟨[], (List.append_nil _).symm⟩

theorem trans (hfirst : OnlyNotes a b) (hsecond : OnlyNotes b c) : OnlyNotes a c := by
  obtain ⟨first, hfirst⟩ := hfirst
  obtain ⟨second, hsecond⟩ := hsecond
  exact ⟨first ++ second, by rw [hsecond, hfirst, List.map_append, List.append_assoc]⟩

theorem note (h : OnlyNotes a b) (n : Note) : OnlyNotes a (b.note n) :=
  h.trans ⟨[n], Journal.entries_add b.journal (.note n)⟩

end OnlyNotes

theorem onlyNotes_acceptResponse (l : Link) : OnlyNotes l l.acceptResponse := by
  unfold acceptResponse
  dsimp only
  split
  · exact .refl l
  · exact .note (.refl l) .responseUnasked

theorem onlyNotes_take (pending : Nat) (l : Link) (report : Report) :
    OnlyNotes l (l.take pending report) := by
  cases report with
  | error cause => exact .note (.refl l) _
  | ok p =>
      have hreceived : OnlyNotes l (l.note (.received p)) := .note (.refl l) _
      rw [take, accept, enqueueReceived_eq]
      dsimp only
      apply OnlyNotes.note
      split
      · exact hreceived.trans (onlyNotes_acceptResponse _)
      · exact hreceived

theorem onlyNotes_receive (l : Link) (source : Assembler) (bytes : Bytes) :
    OnlyNotes l (l.receive source bytes).2.2 :=
  List.foldlRecOn (motive := OnlyNotes l) _ _ (.refl l) fun next hnext report _ =>
    hnext.trans (onlyNotes_take _ next report)

/-! ## Chunks -/

def receiveAll (l : Link) (source : Assembler) : List Bytes → Nat × Assembler × Link
  | [] => (0, source, l)
  | chunk :: rest =>
      let (queued, source, l) := l.receive source chunk
      let (later, source, l) := l.receiveAll source rest
      (queued + later, source, l)

def silent (l : Link) : Link := { l with journal := {} }

theorem receiveAll_eq (l : Link) (source : Assembler) (chunks : List Bytes) :
    let pushed := source.push chunks.flatten
    (l.receiveAll source chunks).1 = (accepted pushed.2).length ∧
      (l.receiveAll source chunks).2.1 = pushed.1 ∧
      (l.receiveAll source chunks).2.2.silent = (l.told pushed.2).silent := by
  induction chunks generalizing l source with
  | nil => simp [receiveAll, Assembler.push_nil, told_nil]
  | cons chunk rest ih =>
      obtain ⟨hqueued, hsource, hlink⟩ := ih (l.receive source chunk).2.2 (source.push chunk).1
      rw [List.flatten_cons, Assembler.push_append]
      simp only [accepted_append, List.length_append, told_append]
      refine ⟨?_, hsource, ?_⟩
      · rw [← hqueued, ← packetCount_eq]
        rfl
      · refine hlink.trans ?_
        rw [receive_eq_told]
        rfl

/--
The reports on some bytes say all that reading them does.  The packets among them are counted, those
that wait for the host go to the end of the urgent queue and the others to the end of the ordinary
one, in the order of the stream; the other reports are counted as dropped frames; the permit is
given back by a response and by nothing else.  The rest of the link stays as it is, and the journal
gets notes only.  Two ways of cutting a stream queue as many packets, and leave the same link up to
its journal and the same assembler.
-/
theorem receive_sorts (l : Link) (source : Assembler) (bytes : Bytes) :
    let reports := (source.push bytes).2
    let packets := accepted reports
    let result := l.receive source bytes
    result.1 = packets.length ∧ result.2.1 = (source.push bytes).1 ∧
      result.2.2 =
        { l with
          receivedHigh := l.receivedHigh ++ packets.filter (·.awaitsHost)
          receivedLow := l.receivedLow ++ packets.filter (!·.awaitsHost)
          permitHeld := l.permitHeld && !packets.any (·.kind = .response)
          counters := { l.counters with
            framesReceived := l.counters.framesReceived + packets.length
            framesDropped := l.counters.framesDropped + reports.countP Report.isFault
            responsesReceived :=
              l.counters.responsesReceived + packets.countP (·.kind = .response) }
          journal := result.2.2.journal } ∧
      (∃ notes : List Note, result.2.2.journal.entries = l.journal.entries ++ notes.map .note) ∧
      ∀ chunks others : List Bytes, chunks.flatten = others.flatten →
        (l.receiveAll source chunks).1 = (l.receiveAll source others).1 ∧
          (l.receiveAll source chunks).2.1 = (l.receiveAll source others).2.1 ∧
          (l.receiveAll source chunks).2.2.silent = (l.receiveAll source others).2.2.silent := by
  intro reports packets result
  refine ⟨packetCount_eq reports, rfl, l.receive_eq_told source bytes,
    l.onlyNotes_receive source bytes, ?_⟩
  intro chunks others hstream
  obtain ⟨hqueued, hsource, hlink⟩ := l.receiveAll_eq source chunks
  obtain ⟨hqueued', hsource', hlink'⟩ := l.receiveAll_eq source others
  rw [← hstream] at hqueued' hsource' hlink'
  exact ⟨hqueued.trans hqueued'.symm, hsource.trans hsource'.symm, hlink.trans hlink'.symm⟩

theorem receive_sorts_cut_stream :
    let event := Packet.sealed .event [0x02, 0x00] []
    let response := Packet.sealed .response [0x00] []
    let l : Link := { permitHeld := true }
    let chunks := [event.encode.take 5, event.encode.drop 5 ++ [0x17], response.encode]
    let others := [event.encode ++ [0x17] ++ response.encode]
    chunks.flatten = others.flatten ∧ chunks ≠ others ∧
      (l.receiveAll {} chunks).1 = (l.receiveAll {} others).1 ∧
      (l.receiveAll {} chunks).2.2.silent = (l.receiveAll {} others).2.2.silent := by
  refine ⟨by decide +kernel, by decide +kernel, ?queued, ?link⟩
  case queued => exact ((receive_sorts _ {} []).2.2.2.2 _ _ (by decide +kernel)).1
  case link => exact ((receive_sorts _ {} []).2.2.2.2 _ _ (by decide +kernel)).2.2

end Link

end Esp3Host
