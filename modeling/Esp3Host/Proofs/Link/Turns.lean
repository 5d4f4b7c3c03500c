import Esp3Host.Link.Transmit

/-!
# The exits of a transmit cycle

Every operation of the transmitter is one update of the link, up to the journal.  `Turn` lists the
ways in which a cycle can end, each with its conditions and with the link after it, and `turn_cycle`
says that a cycle always ends in one of them.
-/

namespace Esp3Host.Link

/-! ## Operations as updates -/

theorem write_eq (l : Link) (p : Packet) :
    l.write p =
      { l with
        line := { l.line with
          frames := l.line.frames ++ if l.line.failing then [] else [p.encode] }
        counters := { l.counters with
          writeErrors := l.counters.writeErrors + if l.line.failing then 1 else 0 }
        journal := (l.write p).journal } := by
  obtain ⟨_, _, _, _, _, _, _, ⟨frames, failing⟩, _, _⟩ := l
  cases failing <;> simp [write, note, record]

theorem writeHigh_eq (l : Link) (item : Item) :
    l.writeHigh item =
      { l with
        line := { l.line with
          frames := l.line.frames ++ if l.line.failing then [] else [item.packet.encode] }
        counters := { l.counters with
          writeErrors := l.counters.writeErrors + if l.line.failing then 1 else 0
          sentHigh := l.counters.sentHigh + 1 }
        journal := (l.writeHigh item).journal } := by
  simp only [writeHigh]
  rw [write_eq]

theorem beginExchange_eq (l : Link) (now : Instant) (item : Item) (rest : List Item) :
    l.beginExchange now item rest =
      { l with
        sendLow := rest
        outstanding := some ⟨{ item with attemptsLeft := item.attemptsLeft - 1 }, now⟩
        line := { l.line with
          frames := l.line.frames ++ if l.line.failing then [] else [item.packet.encode] }
        counters := { l.counters with
          writeErrors := l.counters.writeErrors + if l.line.failing then 1 else 0
          sentLow := l.counters.sentLow + 1 }
        journal := (l.beginExchange now item rest).journal } := by
  simp only [beginExchange]
  rw [write_eq]

theorem resend_eq (l : Link) (now : Instant) (current : Exchange) :
    l.resend now current =
      { l with
        outstanding :=
          some ⟨{ current.item with attemptsLeft := current.item.attemptsLeft - 1 }, now⟩
        line := { l.line with
          frames := l.line.frames ++ if l.line.failing then [] else [current.item.packet.encode] }
        counters := { l.counters with
          writeErrors := l.counters.writeErrors + if l.line.failing then 1 else 0
          retransmissions := l.counters.retransmissions + 1 }
        journal := (l.resend now current).journal } := by
  simp only [resend]
  rw [write_eq]
  rfl

theorem giveUp_eq (l : Link) (current : Exchange) :
    l.giveUp current =
      { l with
        outstanding := none
        permitHeld := false
        counters := { l.counters with deliveryFailures := l.counters.deliveryFailures + 1 }
        journal := (l.giveUp current).journal } := rfl

theorem collect_eq (l : Link) (now : Instant) :
    l.collect now = { l with outstanding := none, journal := (l.collect now).journal } := by
  obtain ⟨_, _, _, _, _, _, outstanding, _, _, _⟩ := l
  cases outstanding <;> rfl

def dropAll (l : Link) (items : List Item) : Link := items.foldl dropExhausted l

theorem dropAll_eq (l : Link) (items : List Item) :
    l.dropAll items =
      { l with
        counters := { l.counters with
          deliveryFailures := l.counters.deliveryFailures + items.length }
        journal := (l.dropAll items).journal } := by
  induction items generalizing l with
  | nil => rfl
  | cons item rest ih =>
      change (l.dropExhausted item).dropAll rest = _
      rw [ih]
      simp [dropAll, dropExhausted, countFailure, note, record]
      omega

/-! ## The exits -/

/-- The outcome of a cycle and the link after it, one constructor for each exit. -/
inductive Turn (l : Link) (now : Instant) : CycleOutcome → Link → Prop
  | urgent (item rest) (hhigh : l.sendHigh = item :: rest) :
      Turn l now .sentHigh ({ l with sendHigh := rest }.writeHigh item)
  | alone (hhigh : l.sendHigh = []) (hheld : l.permitHeld = true)
      (hout : l.outstanding = none) :
      Turn l now .waiting l
  | waiting (current) (hhigh : l.sendHigh = []) (hheld : l.permitHeld = true)
      (hout : l.outstanding = some current)
      (hearly : now.since current.sentAt < l.tuning.responseTimeout) :
      Turn l now .waiting l
  | resent (current) (hhigh : l.sendHigh = []) (hheld : l.permitHeld = true)
      (hout : l.outstanding = some current)
      (hlate : l.tuning.responseTimeout ≤ now.since current.sentAt)
      (hleft : 0 < current.item.attemptsLeft) :
      Turn l now .retransmitted (l.resend now current)
  | gaveUp (current) (hhigh : l.sendHigh = []) (hheld : l.permitHeld = true)
      (hout : l.outstanding = some current)
      (hlate : l.tuning.responseTimeout ≤ now.since current.sentAt)
      (hleft : current.item.attemptsLeft = 0) :
      Turn l now .gaveUp (l.giveUp current)
  | idle (hhigh : l.sendHigh = []) (hfree : l.permitHeld = false)
      (hspent : ∀ item ∈ l.sendLow, item.attemptsLeft = 0) :
      Turn l now .idle { (l.collect now).dropAll l.sendLow with sendLow := [] }
  | started (spent item rest) (hhigh : l.sendHigh = []) (hfree : l.permitHeld = false)
      (hlow : l.sendLow = spent ++ item :: rest)
      (hspent : ∀ item ∈ spent, item.attemptsLeft = 0) (hleft : 0 < item.attemptsLeft) :
      Turn l now .sentLow
        ({ (l.collect now).dropAll spent with permitHeld := true }.beginExchange now item rest)

theorem Turn.next_eq {l next : Link} {now : Instant} {outcome : CycleOutcome}
    (hturn : Turn l now outcome next) :
    next =
      { l with
        sendHigh := next.sendHigh
        sendLow := next.sendLow
        permitHeld := next.permitHeld
        outstanding := next.outstanding
        line := { l.line with frames := next.line.frames }
        counters := { l.counters with
          sentHigh := next.counters.sentHigh
          sentLow := next.counters.sentLow
          retransmissions := next.counters.retransmissions
          deliveryFailures := next.counters.deliveryFailures
          writeErrors := next.counters.writeErrors }
        journal := next.journal } := by
  cases hturn with
  | urgent item rest => rw [writeHigh_eq]
  | alone | waiting | gaveUp => rfl
  | resent current => rw [resend_eq]
  | idle => rw [dropAll_eq, collect_eq]
  | started spent item rest => rw [beginExchange_eq, dropAll_eq, collect_eq]

theorem startNext_eq (l : Link) (now : Instant) (items : List Item) (hfree : l.permitHeld = false) :
    ((∀ item ∈ items, item.attemptsLeft = 0) ∧
        startNext now items l = (.idle, { l.dropAll items with sendLow := [] })) ∨
      ∃ spent item rest, items = spent ++ item :: rest ∧
        (∀ item ∈ spent, item.attemptsLeft = 0) ∧ 0 < item.attemptsLeft ∧
        startNext now items l =
          (.sentLow, { l.dropAll spent with permitHeld := true }.beginExchange now item rest) := by
  induction items generalizing l with
  | nil => exact .inl ⟨by simp, rfl⟩
  | cons item rest ih =>
      rcases Nat.eq_zero_or_pos item.attemptsLeft with hzero | hpos
      · have hdropped : startNext now (item :: rest) l =
            startNext now rest (l.dropExhausted item) := by
          simp [startNext, Item.isExhausted, hzero]
        rcases ih (l.dropExhausted item) hfree with ⟨hall, hnext⟩ |
          ⟨spent, chosen, behind, rfl, hspent, hleft, hnext⟩
        · exact .inl ⟨List.forall_mem_cons.mpr ⟨hzero, hall⟩, hdropped.trans hnext⟩
        · exact .inr ⟨item :: spent, chosen, behind, rfl,
            List.forall_mem_cons.mpr ⟨hzero, hspent⟩, hleft, hdropped.trans hnext⟩
      · refine .inr ⟨[], item, rest, rfl, by simp, hpos, ?_⟩
        have hexhausted : item.isExhausted = false := by
          simp [Item.isExhausted]
          omega
        simp [startNext, hexhausted, acquire, hfree, dropAll]

theorem turn_cycle (l : Link) (now : Instant) : Turn l now (l.cycle now).1 (l.cycle now).2 := by
  unfold cycle
  split
  case h_1 item rest hhigh => exact .urgent item rest hhigh
  case h_2 hhigh =>
    split
    case isTrue hheld =>
      unfold await
      split
      case h_1 hout => exact .alone hhigh hheld hout
      case h_2 current hout =>
        split
        case isTrue hearly => exact .waiting current hhigh hheld hout hearly
        case isFalse hlate =>
          split
          case isTrue hleft => exact .resent current hhigh hheld hout (Nat.not_lt.mp hlate) hleft
          case isFalse hleft =>
            exact .gaveUp current hhigh hheld hout (Nat.not_lt.mp hlate) (by omega)
    case isFalse hheld =>
      have hfree : l.permitHeld = false := by simpa using hheld
      have hcollected : (l.collect now).permitHeld = false := by
        rw [collect_eq]
        exact hfree
      have hqueue : (l.collect now).sendLow = l.sendLow := by
        rw [collect_eq]
      simp only [hqueue]
      rcases startNext_eq (l.collect now) now l.sendLow hcollected with ⟨hspent, hnext⟩ |
        ⟨spent, item, rest, hlow, hspent, hleft, hnext⟩
      · rw [hnext]
        exact .idle hhigh hfree hspent
      · rw [hnext]
        exact .started spent item rest hhigh hfree hlow hspent hleft

end Esp3Host.Link
