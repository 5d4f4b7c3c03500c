import Esp3Host.Proofs.Link.Intake
import Esp3Host.Proofs.Link.Trace

/-!
# The ordinary side of a link

A link without its urgent packets, its line and its journal is what low-priority and received
packets work with.  Whether the line refuses a frame, and what urgent packets were written before,
is not in it.  Links with the same ordinary side and nothing urgent do the same in a cycle, and have
the same ordinary side after it.
-/

namespace Esp3Host

namespace Link

/-- The link without its urgent packets, its line and its journal. -/
def ordinary (l : Link) : Link :=
  { l with
    sendHigh := []
    line := {}
    counters := { l.counters with sentHigh := 0, writeErrors := 0 }
    journal := {} }

theorem eq_of_ordinary {l m : Link} (h : l.ordinary = m.ordinary) :
    l.tuning = m.tuning ∧ l.sendLow = m.sendLow ∧ l.permitHeld = m.permitHeld ∧
      l.outstanding = m.outstanding := by
  simp only [ordinary, Link.mk.injEq] at h
  obtain ⟨htuning, -, hlow, -, -, hpermit, hout, -⟩ := h
  exact ⟨htuning, hlow, hpermit, hout⟩

/-! ## Operations -/

theorem ordinary_writeHigh (l : Link) (item : Item) : (l.writeHigh item).ordinary = l.ordinary := by
  rw [writeHigh_eq]
  rfl

theorem ordinary_collect (l : Link) (now : Instant) :
    (l.collect now).ordinary = { l.ordinary with outstanding := none } := by
  rw [collect_eq]
  rfl

theorem ordinary_beginExchange (l : Link) (now : Instant) (item : Item) (rest : List Item) :
    (l.beginExchange now item rest).ordinary =
      (l.ordinary.beginExchange now item rest).ordinary := by
  rw [beginExchange_eq, beginExchange_eq l.ordinary]
  rfl

theorem ordinary_resend (l : Link) (now : Instant) (current : Exchange) :
    (l.resend now current).ordinary = (l.ordinary.resend now current).ordinary := by
  rw [resend_eq, resend_eq l.ordinary]
  rfl

theorem ordinary_sendWith (l : Link) (attempts : Nat) (priority : Priority) (p : Packet) :
    (l.sendWith attempts priority p).ordinary =
      { l.ordinary with
        sendLow := l.ordinary.sendLow ++ if priority = .low then [⟨p, attempts⟩] else [] } := by
  rw [sendWith_eq]
  rfl

theorem ordinary_receive (l : Link) (source : Assembler) (bytes : Bytes) :
    (l.receive source bytes).2.2.ordinary = (l.ordinary.receive source bytes).2.2.ordinary := by
  rw [receive_eq, receive_eq l.ordinary]
  rfl

/-! ## Cycles -/

section

variable {l m : Link}

theorem await_congr (h : l.ordinary = m.ordinary) (now : Instant) :
    Prod.map id ordinary (l.await now) = Prod.map id ordinary (m.await now) := by
  obtain ⟨htuning, -, -, hout⟩ := eq_of_ordinary h
  simp only [await, htuning, hout]
  split
  case h_1 => exact Prod.ext rfl h
  case h_2 current hcurrent =>
    split
    case isTrue hearly => exact Prod.ext rfl h
    case isFalse hlate =>
      split
      case isTrue hleft =>
        refine Prod.ext rfl ?_
        change (l.resend now current).ordinary = (m.resend now current).ordinary
        rw [ordinary_resend, h, ← ordinary_resend]
      case isFalse hleft =>
        refine Prod.ext rfl ?_
        change (l.ordinary.giveUp current).ordinary = (m.ordinary.giveUp current).ordinary
        rw [h]

theorem startNext_congr (now : Instant) (items : List Item) (h : l.ordinary = m.ordinary) :
    Prod.map id ordinary (startNext now items l) =
      Prod.map id ordinary (startNext now items m) := by
  induction items generalizing l m with
  | nil => exact Prod.ext rfl (congrArg (fun side : Link => { side with sendLow := [] }) h)
  | cons item rest ih =>
      simp only [startNext]
      split
      -- What is dropped on the way is counted on both sides.
      case isTrue hspent => exact ih (congrArg countFailure h)
      case isFalse hleft =>
        obtain ⟨-, -, hpermit, -⟩ := eq_of_ordinary h
        have hheld : { l with permitHeld := true }.ordinary =
            { m with permitHeld := true }.ordinary :=
          congrArg (fun side : Link => { side with permitHeld := true }) h
        simp only [acquire, hpermit]
        cases m.permitHeld with
        | true =>
            refine Prod.ext rfl ?_
            exact congrArg (fun side : Link => { side with sendLow := item :: rest }) hheld
        | false =>
            refine Prod.ext rfl ?_
            change ({ l with permitHeld := true }.beginExchange now item rest).ordinary =
              ({ m with permitHeld := true }.beginExchange now item rest).ordinary
            rw [ordinary_beginExchange, hheld, ← ordinary_beginExchange]

theorem cycle_congr (hl : l.sendHigh = []) (hm : m.sendHigh = []) (h : l.ordinary = m.ordinary)
    (now : Instant) : Prod.map id ordinary (l.cycle now) = Prod.map id ordinary (m.cycle now) := by
  obtain ⟨-, -, hpermit, -⟩ := eq_of_ordinary h
  have hcollected : (l.collect now).ordinary = (m.collect now).ordinary := by
    rw [ordinary_collect, h, ← ordinary_collect]
  obtain ⟨-, hlow, -, -⟩ := eq_of_ordinary hcollected
  simp only [cycle, hl, hm, hpermit, hlow]
  split
  case isTrue hheld => exact await_congr h now
  case isFalse hfree => exact startNext_congr now _ hcollected

end

theorem Turn.sendHigh_eq_nil_iff {l next : Link} {now : Instant} {outcome : CycleOutcome}
    (hturn : l.Turn now outcome next) : l.sendHigh = [] ↔ outcome ≠ .sentHigh := by
  cases hturn <;> simp [*]

theorem Turn.urgent_eq {l next : Link} {now : Instant} {outcome : CycleOutcome}
    (hturn : l.Turn now outcome next) (hcalm : l.sendHigh = []) :
    next.sendHigh = [] ∧ next.counters.sentHigh = l.counters.sentHigh := by
  cases hturn with
  | urgent item rest hhigh => cases hcalm.symm.trans hhigh
  | alone | waiting | gaveUp => exact ⟨hcalm, rfl⟩
  | resent current =>
      rw [resend_eq]
      exact ⟨hcalm, rfl⟩
  | idle =>
      rw [dropAll_eq, collect_eq]
      exact ⟨hcalm, rfl⟩
  | started spent item rest =>
      rw [beginExchange_eq, dropAll_eq, collect_eq]
      exact ⟨hcalm, rfl⟩

end Link

theorem CycleOutcome.packets_congr {l m : Link} (hhigh : l.sendHigh = m.sendHigh)
    (hordinary : l.ordinary = m.ordinary) (outcome : CycleOutcome) :
    outcome.packets l = outcome.packets m := by
  obtain ⟨-, hlow, -, hout⟩ := Link.eq_of_ordinary hordinary
  cases outcome <;> simp [packets, hhigh, hlow, hout]

end Esp3Host
