import Esp3Host.Proofs.Link.Dialogue
import Esp3Host.Proofs.Link.Forecast

/-!
# Stop and wait

Rounds that are at least the response timeout apart find the link ready for the next packet, or with
a packet whose answer is overdue.  Each of them either ends idle or keeps the forecast and leaves
less to do, so the link comes to rest with what was forecast from the start.
-/

namespace Esp3Host

structure Link.AtRest (l : Link) : Prop where
  sendHigh : l.sendHigh = []
  sendLow : l.sendLow = []
  permit : l.permitHeld = false
  outstanding : l.outstanding = none

namespace Dialogue

/--
What holds before a round at `now`: the permit is free, or `current` was written at least the
response timeout ago and waits for its answer.
-/
structure Poised (timeout : Span) (d : Dialogue) (now : Instant) (queue : List Item)
    (current : Option Item) : Prop where
  source : d.source = {}
  tuning : d.link.tuning.responseTimeout = timeout
  sendHigh : d.link.sendHigh = []
  sendLow : d.link.sendLow = queue
  line : d.link.line.failing = false
  permit : d.link.permitHeld = current.isSome
  due : ∀ item, current = some item →
    ∃ sentAt, d.link.outstanding = some ⟨item, sentAt⟩ ∧ sentAt.after timeout ≤ now

/-- How many rounds may still be made; the drop of a packet counts as one. -/
def work (queue : List Item) (current : Option Item) : Nat :=
  (queue.map (·.attemptsLeft + 1)).sum + current.elim 0 (·.attemptsLeft + 1)

theorem work_lt_of_first {spent : List Item} {item : Item} {queue : List Item}
    (h : 0 < item.attemptsLeft) (answered : Bool) :
    work queue (if answered then none
        else some { item with attemptsLeft := item.attemptsLeft - 1 }) <
      work (spent ++ item :: queue) none := by
  cases answered <;> simp [work] <;> omega

theorem work_lt_of_again {current : Item} {queue : List Item} (h : 0 < current.attemptsLeft)
    (answered : Bool) :
    work queue (if answered then none
        else some { current with attemptsLeft := current.attemptsLeft - 1 }) <
      work queue (some current) := by
  cases answered <;> simp [work]
  omega

variable {timeout : Span} {d : Dialogue} {now later : Instant} {queue : List Item}

theorem Poised.exists_of_held {current : Option Item} (h : d.Poised timeout now queue current)
    (hheld : d.link.permitHeld = true) :
    ∃ item sentAt, current = some item ∧ d.link.outstanding = some ⟨item, sentAt⟩ ∧
      sentAt.after timeout ≤ now := by
  obtain ⟨item, hcurrent⟩ := Option.isSome_iff_exists.mp (h.permit ▸ hheld)
  obtain ⟨sentAt, hsent, hdue⟩ := h.due item hcurrent
  exact ⟨item, sentAt, hcurrent, hsent, hdue⟩

theorem Poised.eq_none_of_free {current : Option Item} (h : d.Poised timeout now queue current)
    (hfree : d.link.permitHeld = false) : current = none :=
  Option.not_isSome_iff_eq_none.mp (by simp [← h.permit, hfree])

theorem Poised.hear {current : Item} (h : d.Poised timeout now queue (some current))
    {answer : Option Packet} (hanswer : ∀ p, answer = some p → p.kind = .response ∧ p.Built) :
    (d.hear answer).Poised timeout now queue (if answer.isSome then none else some current) ∧
      (d.hear answer).link.tally = d.link.tally ∧ (d.hear answer).writes = d.writes + 1 := by
  obtain ⟨hsame, hpermit, hsource, hwrites⟩ := hear_sameSending h.source hanswer
  refine ⟨⟨hsource, ?_, ?_, ?_, ?_, ?_, ?_⟩, ?_, hwrites⟩
  · rw [hsame.tuning, h.tuning]
  · rw [hsame.sendHigh, h.sendHigh]
  · rw [hsame.sendLow, h.sendLow]
  · rw [hsame.line, h.line]
  · rw [hpermit, h.permit]
    cases answer <;> rfl
  · intro item hitem
    cases answer with
    | some p => cases hitem
    | none => exact hsame.outstanding ▸ h.due item hitem
  · simp only [Link.tally, hsame.line, hsame.sentLow, hsame.retransmissions, hsame.deliveryFailures]

/-! ## One round -/

/-- A round ended idle with what was forecast, or it keeps the forecast and leaves less to do. -/
def Advances (answered : Nat → Bool) (timeout : Span) (later : Instant) (goal : Tally)
    (left : Nat) (d : Dialogue) : CycleOutcome → Prop
  | .idle => d.link.AtRest ∧ d.link.tally = goal
  | _ => ∃ queue current, d.Poised timeout later queue current ∧ work queue current < left ∧
      forecast answered d.writes d.link.tally queue current = goal

theorem Advances.of_busy {answered : Nat → Bool} {goal : Tally} {left : Nat}
    {outcome : CycleOutcome} (h : Advances answered timeout later goal left d outcome)
    (hbusy : outcome ≠ .idle) :
    ∃ queue current, d.Poised timeout later queue current ∧ work queue current < left ∧
      forecast answered d.writes d.link.tally queue current = goal := by
  cases outcome with
  | idle => exact absurd rfl hbusy
  | sentHigh | sentLow | waiting | retransmitted | gaveUp => exact h

section

variable {answers : Nat → Option Packet} {item : Item}

theorem Poised.advances_resend (h : d.Poised timeout now queue (some item))
    (hanswers : ∀ n p, answers n = some p → p.kind = .response ∧ p.Built)
    (hlater : now.after timeout ≤ later) (sentAt : Instant) (hleft : 0 < item.attemptsLeft) :
    Advances (fun n => (answers n).isSome) timeout later
      (forecast (fun n => (answers n).isSome) d.writes d.link.tally queue (some item))
      (work queue (some item))
      ({ d with link := d.link.resend now ⟨item, sentAt⟩ }.hear (answers d.writes))
      .retransmitted := by
  have hwritten : Poised timeout { d with link := d.link.resend now ⟨item, sentAt⟩ } later queue
      (some { item with attemptsLeft := item.attemptsLeft - 1 }) := by
    rw [Link.resend_eq]
    exact ⟨h.source, h.tuning, h.sendHigh, h.sendLow, h.line, h.permit,
      fun _ hitem => ⟨now, by cases hitem; rfl, hlater⟩⟩
  obtain ⟨hpoised, htally, hwrites⟩ := hwritten.hear (hanswers d.writes)
  refine ⟨queue, _, hpoised, work_lt_of_again hleft _, ?_⟩
  rw [forecast_of_again _ _ _ hleft, hwrites, htally, Link.resend_eq]
  simp [Link.tally, h.line]

theorem Poised.advances_giveUp (h : d.Poised timeout now queue (some item)) (later : Instant)
    (answered : Nat → Bool) (sentAt : Instant) (hleft : item.attemptsLeft = 0) :
    Advances answered timeout later (forecast answered d.writes d.link.tally queue (some item))
      (work queue (some item)) { d with link := d.link.giveUp ⟨item, sentAt⟩ } .gaveUp := by
  refine ⟨queue, none, ?_, by simp [work], ?_⟩
  · rw [Link.giveUp_eq]
    exact ⟨h.source, h.tuning, h.sendHigh, h.sendLow, h.line, rfl, nofun⟩
  · rw [forecast_of_failure _ _ _ hleft]
    rfl

theorem Poised.advances_idle (h : d.Poised timeout now queue none) (later : Instant)
    (answered : Nat → Bool) (hspent : ∀ item ∈ queue, item.attemptsLeft = 0) :
    Advances answered timeout later (forecast answered d.writes d.link.tally queue none)
      (work queue none)
      { d with link := { (d.link.collect now).dropAll queue with sendLow := [] } } .idle := by
  have hforecast := forecast_of_exhausted answered d.writes d.link.tally hspent []
  rw [List.append_nil] at hforecast
  rw [hforecast, Link.dropAll_eq, Link.collect_eq]
  exact ⟨⟨h.sendHigh, rfl, h.permit, rfl⟩, rfl⟩

theorem Poised.advances_begin {spent rest : List Item}
    (h : d.Poised timeout now (spent ++ item :: rest) none)
    (hanswers : ∀ n p, answers n = some p → p.kind = .response ∧ p.Built)
    (hlater : now.after timeout ≤ later) (hspent : ∀ item ∈ spent, item.attemptsLeft = 0)
    (hleft : 0 < item.attemptsLeft) :
    let begun := { (d.link.collect now).dropAll spent with
      permitHeld := true }.beginExchange now item rest
    Advances (fun n => (answers n).isSome) timeout later
      (forecast (fun n => (answers n).isSome) d.writes d.link.tally (spent ++ item :: rest) none)
      (work (spent ++ item :: rest) none)
      ({ d with link := begun }.hear (answers d.writes)) .sentLow := by
  intro begun
  have hbegun : begun =
      { d.link with
        permitHeld := true
        sendLow := rest
        outstanding := some ⟨{ item with attemptsLeft := item.attemptsLeft - 1 }, now⟩
        line := { d.link.line with frames := d.link.line.frames ++ [item.packet.encode] }
        counters := { d.link.counters with
          deliveryFailures := d.link.counters.deliveryFailures + spent.length
          sentLow := d.link.counters.sentLow + 1 }
        journal := begun.journal } := by
    simp only [begun]
    rw [Link.beginExchange_eq, Link.dropAll_eq, Link.collect_eq]
    simp [h.line]
  have hwritten : Poised timeout { d with link := begun } later rest
      (some { item with attemptsLeft := item.attemptsLeft - 1 }) := by
    rw [hbegun]
    exact ⟨h.source, h.tuning, h.sendHigh, rfl, h.line, rfl,
      fun _ hitem => ⟨now, by cases hitem; rfl, hlater⟩⟩
  obtain ⟨hpoised, htally, hwrites⟩ := hwritten.hear (hanswers d.writes)
  refine ⟨rest, _, hpoised, work_lt_of_first hleft _, ?_⟩
  rw [forecast_of_exhausted _ _ _ hspent, forecast_of_first _ _ _ hleft, hwrites, htally, hbegun]
  simp only [Link.tally]

theorem Poised.advances_round {current : Option Item} (h : d.Poised timeout now queue current)
    (hanswers : ∀ n p, answers n = some p → p.kind = .response ∧ p.Built)
    (hlater : now.after timeout ≤ later) :
    Advances (fun n => (answers n).isSome) timeout later
      (forecast (fun n => (answers n).isSome) d.writes d.link.tally queue current)
      (work queue current) (d.round answers now).2 (d.round answers now).1 := by
  have hturn := d.link.turn_cycle now
  simp only [Dialogue.round]
  generalize d.link.cycle now = result at hturn ⊢
  obtain ⟨outcome, next⟩ := result
  simp only at hturn ⊢
  cases hturn with
  | urgent item rest hhigh => cases h.sendHigh.symm.trans hhigh
  | alone hhigh hheld hout =>
      obtain ⟨item, sentAt, rfl, hsent, -⟩ := h.exists_of_held hheld
      cases hout.symm.trans hsent
  | waiting exchange hhigh hheld hout hearly =>
      obtain ⟨item, sentAt, rfl, hsent, hdue⟩ := h.exists_of_held hheld
      cases hout.symm.trans hsent
      exact absurd (h.tuning ▸ hearly) (Nat.not_lt.mpr (Instant.le_since hdue))
  | resent exchange hhigh hheld hout hlate hleft =>
      obtain ⟨item, sentAt, rfl, hsent, -⟩ := h.exists_of_held hheld
      cases hout.symm.trans hsent
      exact h.advances_resend hanswers hlater sentAt hleft
  | gaveUp exchange hhigh hheld hout hlate hleft =>
      obtain ⟨item, sentAt, rfl, hsent, -⟩ := h.exists_of_held hheld
      cases hout.symm.trans hsent
      exact h.advances_giveUp later _ sentAt hleft
  | idle hhigh hfree hspent =>
      cases h.eq_none_of_free hfree
      cases h.sendLow
      exact h.advances_idle later _ hspent
  | started spent item rest hhigh hfree hlow hspent hleft =>
      cases h.eq_none_of_free hfree
      cases h.sendLow.symm.trans hlow
      exact h.advances_begin hanswers hlater hspent hleft

/-! ## All rounds -/

theorem Poised.settles {current : Option Item}
    (hanswers : ∀ n p, answers n = some p → p.kind = .response ∧ p.Built) {times : Nat → Instant}
    (hspaced : ∀ n, (times n).after timeout ≤ times (n + 1))
    (h : d.Poised timeout (times 0) queue current) :
    d.Settles answers times fun final => final.AtRest ∧
      final.tally = forecast (fun n => (answers n).isSome) d.writes d.link.tally queue current := by
  -- the induction is on the work left, of which every round that is not idle does some
  generalize hwork : work queue current = left
  induction left using Nat.strongRecOn generalizing d times queue current with
  | ind left ih =>
      have hround := h.advances_round hanswers (hspaced 0)
      by_cases hidle : (d.round answers (times 0)).1 = .idle
      · rw [hidle] at hround
        exact .of_idle hidle hround
      · obtain ⟨queue', current', hpoised, hless, hforecast⟩ := hround.of_busy hidle
        refine .of_busy hidle ?_
        rw [← hforecast]
        exact ih _ (hwork ▸ hless) (fun n => hspaced (n + 1)) hpoised rfl

end

end Dialogue

/--
With rounds at least the response timeout apart, a free permit, nothing urgent and a line that takes
every frame, the link comes to rest whatever is queued and whichever writes are answered.  Every
packet was then written as its delivery tells, once first and otherwise again, and each delivery
without an answer was counted as a failure.
-/
theorem stop_and_wait (l : Link) (answers : Nat → Option Packet) (times : Nat → Instant)
    (hanswers : ∀ n p, answers n = some p → p.kind = .response ∧ p.Built)
    (hspaced : ∀ n, (times n).after l.tuning.responseTimeout ≤ times (n + 1))
    (hhigh : l.sendHigh = []) (hfree : l.permitHeld = false) (hline : l.line.failing = false) :
    let delivered := deliveries (fun n => (answers n).isSome) 0 l.sendLow
    Dialogue.Settles answers times { link := l } fun final =>
      final.AtRest ∧
      final.line.frames = l.line.frames ++
        delivered.flatMap (fun d => List.replicate d.writes d.item.packet.encode) ∧
      final.counters.deliveryFailures =
        l.counters.deliveryFailures + delivered.countP (!·.answered) ∧
      final.counters.sentLow = l.counters.sentLow + l.sendLow.countP (0 < ·.attemptsLeft) ∧
      final.counters.retransmissions =
        l.counters.retransmissions + (delivered.map (·.writes - 1)).sum := by
  intro delivered
  have hpoised : Dialogue.Poised l.tuning.responseTimeout { link := l } (times 0) l.sendLow none :=
    ⟨rfl, rfl, hhigh, rfl, hline, hfree, nofun⟩
  obtain ⟨n, hbusy, hidle, hrest, htally⟩ := hpoised.settles hanswers hspaced
  rw [forecast, Tally.foldl_add, deliveries_item] at htally
  exact ⟨n, hbusy, hidle, hrest, congrArg Tally.frames htally,
    congrArg Tally.deliveryFailures htally, congrArg Tally.sentLow htally,
    congrArg Tally.retransmissions htally⟩

theorem stop_and_wait_second_write :
    let p := Packet.sealed .radio [0xA5] []
    let response := Packet.sealed .response [0] []
    Dialogue.Settles (fun n => if n = 1 then some response else none)
      (fun n => (0 : Instant).after (n * Span.ofMillis 500))
      { link := { sendLow := [⟨p, 3⟩, ⟨p, 0⟩] } } fun final =>
        final.AtRest ∧ final.line.frames = [p.encode, p.encode] ∧
        final.counters.deliveryFailures = 1 ∧ final.counters.sentLow = 1 ∧
        final.counters.retransmissions = 1 := by
  intro p response
  refine stop_and_wait { sendLow := [⟨p, 3⟩, ⟨p, 0⟩] } _ _ ?_ ?_ rfl rfl rfl
  · intro n answer hanswer
    split at hanswer
    · cases hanswer
      exact ⟨rfl, .response, [0], [], rfl⟩
    · cases hanswer
  · intro n
    simp only [Instant, Span, Instant.after, Span.ofMillis]
    omega

end Esp3Host
