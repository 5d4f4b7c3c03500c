import Esp3Host.Proofs.Link.Reception

/-!
# What receiving does

The reports on a source's bytes say all that receiving them does to a link.  Packets are counted and
put at the end of the queue of their class, every response among them is counted and frees the
permit, and every other report is counted as a dropped frame.
-/

namespace Esp3Host

/-! ## Classes -/

theorem EventCode.needsResponse_ofCode_iff {code : UInt8} :
    (ofCode code).needsResponse = true ↔ code.toNat = 1 ∨ code.toNat = 2 ∨ code.toNat = 3 := by
  unfold ofCode
  split
  case h_8 =>
    simp [needsResponse]
    exact ⟨‹_›, ‹_›, ‹_›⟩
  all_goals simp [needsResponse, *]

theorem Packet.needsResponse_iff {p : Packet} :
    p.needsResponse = true ↔ p.kind = .event ∧ ∃ code rest, p.data = code :: rest ∧
      (code.toNat = 1 ∨ code.toNat = 2 ∨ code.toNat = 3) := by
  obtain ⟨kind, data, optional, headerCheck, payloadCheck⟩ := p
  simp only [needsResponse, EventCode.ofPacket?, ← EventCode.needsResponse_ofCode_iff]
  cases data with
  | nil => cases kind <;> simp
  | cons code rest => cases kind <;> simp

theorem Packet.priority_eq_high_iff {p : Packet} :
    p.priority = .high ↔ p.kind = .event ∧ ∃ code rest, p.data = code :: rest ∧
      (code.toNat = 1 ∨ code.toNat = 2 ∨ code.toNat = 3) := by
  rw [← needsResponse_iff, priority]
  split <;> simp [*]

theorem Packet.length_eq_high_add_low (packets : List Packet) :
    packets.length = (packets.filter (·.priority = .high)).length +
      (packets.filter (·.priority = .low)).length := by
  induction packets with
  | nil => rfl
  | cons p rest ih => cases hclass : p.priority <;> simp [hclass, ih] <;> omega

/-! ## Reports -/

def Report.packet? : Report → Option Packet
  | .ok p => some p
  | .error _ => none

def Report.isFault : Report → Bool
  | .ok _ => false
  | .error _ => true

def accepted (reports : List Report) : List Packet := reports.filterMap Report.packet?

@[simp] theorem accepted_nil : accepted [] = [] := rfl

@[simp] theorem accepted_ok (p : Packet) (rest : List Report) :
    accepted (.ok p :: rest) = p :: accepted rest := rfl

@[simp] theorem accepted_error (cause : FramingError) (rest : List Report) :
    accepted (.error cause :: rest) = accepted rest := rfl

namespace Link

theorem foldl_take_eq (pending : Nat) (reports : List Report) (l : Link) :
    reports.foldl (take pending) l =
      { l with
        receivedHigh := l.receivedHigh ++ (accepted reports).filter (·.priority = .high)
        receivedLow := l.receivedLow ++ (accepted reports).filter (·.priority = .low)
        permitHeld := l.permitHeld && !reports.any Report.isResponse
        counters := { l.counters with
          framesReceived := l.counters.framesReceived + (accepted reports).length
          framesDropped := l.counters.framesDropped + reports.countP Report.isFault
          responsesReceived := l.counters.responsesReceived + reports.countP Report.isResponse }
        journal := (reports.foldl (take pending) l).journal } := by
  induction reports generalizing l with
  | nil => simp
  | cons report rest ih =>
      rw [List.foldl_cons, ih]
      cases report with
      | error cause =>
          simp [take, reject, note, record, List.countP_cons, Report.isFault, Report.isResponse]
          omega
      | ok p =>
          rw [take, accept_eq]
          cases hclass : p.priority <;>
            simp [List.countP_cons, Report.isFault, Report.isResponse, hclass, Bool.and_assoc] <;>
            omega

theorem receive_eq (l : Link) (source : Assembler) (bytes : Bytes) :
    (l.receive source bytes).2.2 =
      { l with
        receivedHigh := l.receivedHigh ++
          (accepted (source.push bytes).2).filter (·.priority = .high)
        receivedLow := l.receivedLow ++
          (accepted (source.push bytes).2).filter (·.priority = .low)
        permitHeld := l.permitHeld && !(source.push bytes).2.any Report.isResponse
        counters := { l.counters with
          framesReceived := l.counters.framesReceived + (accepted (source.push bytes).2).length
          framesDropped := l.counters.framesDropped + (source.push bytes).2.countP Report.isFault
          responsesReceived :=
            l.counters.responsesReceived + (source.push bytes).2.countP Report.isResponse }
        journal := (l.receive source bytes).2.2.journal } :=
  foldl_take_eq _ _ l

end Link

end Esp3Host
