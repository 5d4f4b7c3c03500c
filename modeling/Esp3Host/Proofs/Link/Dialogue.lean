import Esp3Host.Proofs.Link.Reception
import Esp3Host.Proofs.Link.Turns
import Esp3Host.Proofs.Stream.Assembly

/-!
# Rounds between a link and its transceiver

In a round the transmitter makes one cycle, and what that cycle wrote with the permit may be
answered before the next round.  The answers are given by the number of the write.  As nothing else
about a run is left open, this covers every transceiver, also one that decides from all it has seen.
-/

namespace Esp3Host

def CycleOutcome.asks : CycleOutcome → Bool
  | sentLow | retransmitted => true
  | idle | sentHigh | waiting | gaveUp => false

/-- A link, the assembler that reads the answers, and how many writes could be answered so far. -/
structure Dialogue where
  link : Link
  source : Assembler := {}
  writes : Nat := 0

namespace Dialogue

def hear (d : Dialogue) : Option Packet → Dialogue
  | none => { d with writes := d.writes + 1 }
  | some p =>
      let (_, source, link) := d.link.receive d.source p.encode
      { link, source, writes := d.writes + 1 }

def round (answers : Nat → Option Packet) (now : Instant) (d : Dialogue) :
    CycleOutcome × Dialogue :=
  let (outcome, link) := d.link.cycle now
  let d := { d with link }
  (outcome, if outcome.asks then d.hear (answers d.writes) else d)

/-- The outcome of the round number `n`, counted from 0, and the dialogue after it. -/
def rounds (answers : Nat → Option Packet) (times : Nat → Instant) (d : Dialogue) :
    Nat → CycleOutcome × Dialogue
  | 0 => d.round answers (times 0)
  | n + 1 => (d.round answers (times 0)).2.rounds answers (fun k => times (k + 1)) n

/-- The rounds reach an idle cycle, and the first one that they reach leaves such a link. -/
def Settles (answers : Nat → Option Packet) (times : Nat → Instant) (d : Dialogue)
    (P : Link → Prop) : Prop :=
  ∃ n, (∀ m < n, (d.rounds answers times m).1 ≠ .idle) ∧
    (d.rounds answers times n).1 = .idle ∧ P (d.rounds answers times n).2.link

theorem Settles.of_idle {answers : Nat → Option Packet} {times : Nat → Instant} {d : Dialogue}
    {P : Link → Prop} (hidle : (d.round answers (times 0)).1 = .idle)
    (hfinal : P (d.round answers (times 0)).2.link) : d.Settles answers times P :=
  ⟨0, nofun, hidle, hfinal⟩

theorem Settles.of_busy {answers : Nat → Option Packet} {times : Nat → Instant} {d : Dialogue}
    {P : Link → Prop} (hbusy : (d.round answers (times 0)).1 ≠ .idle)
    (hlater : (d.round answers (times 0)).2.Settles answers (fun k => times (k + 1)) P) :
    d.Settles answers times P := by
  obtain ⟨n, hearlier, hidle, hfinal⟩ := hlater
  refine ⟨n + 1, fun m hm => ?_, hidle, hfinal⟩
  cases m with
  | zero => exact hbusy
  | succ m => exact hearlier m (Nat.lt_of_succ_lt_succ hm)

theorem hear_sameSending {d : Dialogue} (hsource : d.source = {}) {answer : Option Packet}
    (hanswer : ∀ p, answer = some p → p.kind = .response ∧ p.Built) :
    (d.hear answer).link.SameSending d.link ∧
      (d.hear answer).link.permitHeld = (d.link.permitHeld && answer.isNone) ∧
      (d.hear answer).source = {} ∧ (d.hear answer).writes = d.writes + 1 := by
  cases answer with
  | none => exact ⟨.refl _, by simp [hear], hsource, rfl⟩
  | some p =>
      obtain ⟨hresponse, hbuilt⟩ := hanswer p rfl
      obtain ⟨hwaiting, hbuffer, hreports⟩ :=
        Assembler.push_eq_scan Assembler.waiting_empty p.encode
      obtain ⟨hsame, hpermit⟩ := d.link.receive_sameSending d.source p.encode
      have hscan := Scan.scan_encode_append hbuilt []
      rw [List.append_nil, Scan.scan_nil] at hscan
      rw [Array.toList_empty, List.nil_append, hscan] at hbuffer hreports
      refine ⟨hsame, ?_, ?_, rfl⟩
      · simp only [hear]
        rw [hpermit, hsource, hreports]
        simp [Report.isResponse, hresponse]
      · simp only [hear, Link.receive, hsource]
        exact hwaiting.eq_empty hbuffer

end Dialogue

end Esp3Host
