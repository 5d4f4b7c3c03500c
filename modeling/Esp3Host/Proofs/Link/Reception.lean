import Esp3Host.Link.Receive

/-!
# Reception and the sending side

Receiving bytes touches the receive queues, their counters and the permit.  The queues to send, the
exchange in flight, the line and the counters of the transmitter stay as they are, and a held permit
is given back exactly when a response is among the reports.
-/

namespace Esp3Host

def Report.isResponse : Report → Bool
  | .ok p => p.kind = .response
  | .error _ => false

namespace Link

/-- Two links that agree on everything a transmitter works with, the permit apart. -/
structure SameSending (a b : Link) : Prop where
  tuning : a.tuning = b.tuning
  sendHigh : a.sendHigh = b.sendHigh
  sendLow : a.sendLow = b.sendLow
  outstanding : a.outstanding = b.outstanding
  line : a.line = b.line
  sentHigh : a.counters.sentHigh = b.counters.sentHigh
  sentLow : a.counters.sentLow = b.counters.sentLow
  retransmissions : a.counters.retransmissions = b.counters.retransmissions
  deliveryFailures : a.counters.deliveryFailures = b.counters.deliveryFailures
  writeErrors : a.counters.writeErrors = b.counters.writeErrors

namespace SameSending

theorem refl (l : Link) : SameSending l l :=
  ⟨rfl, rfl, rfl, rfl, rfl, rfl, rfl, rfl, rfl, rfl⟩

theorem trans {a b c : Link} (first : SameSending a b) (second : SameSending b c) :
    SameSending a c where
  tuning := first.tuning.trans second.tuning
  sendHigh := first.sendHigh.trans second.sendHigh
  sendLow := first.sendLow.trans second.sendLow
  outstanding := first.outstanding.trans second.outstanding
  line := first.line.trans second.line
  sentHigh := first.sentHigh.trans second.sentHigh
  sentLow := first.sentLow.trans second.sentLow
  retransmissions := first.retransmissions.trans second.retransmissions
  deliveryFailures := first.deliveryFailures.trans second.deliveryFailures
  writeErrors := first.writeErrors.trans second.writeErrors

end SameSending

theorem acceptResponse_eq (l : Link) :
    l.acceptResponse =
      { l with
        permitHeld := false
        counters := { l.counters with responsesReceived := l.counters.responsesReceived + 1 }
        journal := l.acceptResponse.journal } := by
  obtain ⟨_, _, _, _, _, held, _, _, _, _⟩ := l
  cases held <;> rfl

theorem enqueueReceived_eq (l : Link) (p : Packet) :
    l.enqueueReceived p =
      { l with
        receivedHigh := l.receivedHigh ++ if p.priority = .high then [p] else []
        receivedLow := l.receivedLow ++ if p.priority = .low then [p] else [] } := by
  cases hpriority : p.priority <;> simp [enqueueReceived, hpriority]

theorem accept_eq (l : Link) (p : Packet) :
    l.accept p =
      { l with
        receivedHigh := l.receivedHigh ++ if p.priority = .high then [p] else []
        receivedLow := l.receivedLow ++ if p.priority = .low then [p] else []
        permitHeld := l.permitHeld && p.kind ≠ .response
        counters := { l.counters with
          framesReceived := l.counters.framesReceived + 1
          responsesReceived := l.counters.responsesReceived + if p.kind = .response then 1 else 0 }
        journal := (l.accept p).journal } := by
  simp only [accept]
  rw [enqueueReceived_eq]
  by_cases hkind : p.kind = .response
  · simp only [hkind, if_true]
    rw [acceptResponse_eq]
    simp [note, record]
  · simp [hkind, note, record]

theorem take_sameSending (pending : Nat) (l : Link) (report : Report) :
    SameSending (l.take pending report) l ∧
      (l.take pending report).permitHeld = (l.permitHeld && !report.isResponse) := by
  cases report with
  | error cause =>
      refine ⟨⟨rfl, rfl, rfl, rfl, rfl, rfl, rfl, rfl, rfl, rfl⟩, ?_⟩
      simp [take, reject, note, record, Report.isResponse]
  | ok p =>
      rw [take, accept_eq]
      refine ⟨⟨rfl, rfl, rfl, rfl, rfl, rfl, rfl, rfl, rfl, rfl⟩, ?_⟩
      simp [Report.isResponse]

theorem foldl_take_sameSending (pending : Nat) (reports : List Report) (l : Link) :
    SameSending (reports.foldl (take pending) l) l ∧
      (reports.foldl (take pending) l).permitHeld =
        (l.permitHeld && !reports.any Report.isResponse) := by
  induction reports generalizing l with
  | nil => exact ⟨.refl l, by simp⟩
  | cons report rest ih =>
      obtain ⟨hfirst, hpermit⟩ := take_sameSending pending l report
      obtain ⟨hrest, hlater⟩ := ih (l.take pending report)
      refine ⟨hrest.trans hfirst, ?_⟩
      rw [List.foldl_cons, hlater, hpermit, List.any_cons, Bool.not_or, Bool.and_assoc]

theorem receive_sameSending (l : Link) (source : Assembler) (bytes : Bytes) :
    SameSending (l.receive source bytes).2.2 l ∧
      (l.receive source bytes).2.2.permitHeld =
        (l.permitHeld && !(source.push bytes).2.any Report.isResponse) :=
  foldl_take_sameSending _ _ l

end Link

end Esp3Host
