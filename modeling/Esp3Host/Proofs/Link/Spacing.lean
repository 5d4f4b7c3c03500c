import Mathlib.Data.List.Chain
import Esp3Host.Proofs.Link.Budget

/-!
# The time between writes

An exchange keeps the time of its last write, and a cycle measures from there whether the packet is
due again.  So the writes of a packet are at least the response timeout apart, and it is given up
at least that long after the last one, whatever the clock shows in between.
-/

namespace Esp3Host

/-! ## What a cycle does to the exchange -/

namespace Link

variable {l next : Link} {now : Instant} {outcome : CycleOutcome}

theorem Turn.sent (hturn : l.Turn now outcome next)
    (h : outcome = .sentLow ∨ outcome = .retransmitted) :
    ∃ item, next.outstanding = some ⟨item, now⟩ ∧ l.handedUntil next = [item.packet.encode] := by
  obtain ⟨item, hout⟩ : ∃ item, next.outstanding = some ⟨item, now⟩ := by
    cases hturn with
    | urgent | alone | waiting | gaveUp | idle => simp at h
    | resent current => exact ⟨_, congrArg Link.outstanding (resend_eq l now current)⟩
    | started spent item rest =>
        exact ⟨_, congrArg Link.outstanding (beginExchange_eq _ now item rest)⟩
  refine ⟨item, hout, ?_⟩
  rw [handedUntil_of_append hturn.handed_eq]
  rcases h with rfl | rfl <;> simp [CycleOutcome.frames, hout]

theorem Turn.overdue (hturn : l.Turn now outcome next)
    (h : outcome = .retransmitted ∨ outcome = .gaveUp) :
    ∃ current, l.outstanding = some current ∧
      l.tuning.responseTimeout ≤ now.since current.sentAt := by
  cases hturn with
  | urgent | alone | waiting | idle | started => simp at h
  | resent current hhigh hheld hout hlate | gaveUp current hhigh hheld hout hlate =>
      exact ⟨current, hout, hlate⟩

theorem Turn.outstanding_eq (hturn : l.Turn now outcome next)
    (h : outcome = .sentHigh ∨ outcome = .waiting) : next.outstanding = l.outstanding := by
  cases hturn with
  | urgent => rw [writeHigh_eq]
  | alone | waiting => rfl
  | resent | gaveUp | idle | started => simp at h

theorem cycle_of_overdue {current : Exchange} (hhigh : l.sendHigh = [])
    (hheld : l.permitHeld = true) (hout : l.outstanding = some current)
    (hdue : current.sentAt.after l.tuning.responseTimeout ≤ now) :
    (l.cycle now).1 =
      if 0 < current.item.attemptsLeft then .retransmitted else .gaveUp := by
  have hlate := Nat.not_lt.mpr (Instant.le_since hdue)
  simp only [cycle, hhigh, hheld, await, hout, if_true, if_neg hlate]
  split <;> rfl

end Link

/-! ## The times of a passage -/

def Deed.writtenAt? : Deed → Option Instant
  | written _ now _ => some now
  | answered | givenUp _ | dropped => none

namespace Passage

def times (s : Passage) : List Instant := s.deeds.filterMap Deed.writtenAt?

/-- The writes of a packet, and its end if it was given up, are the timeout apart. -/
structure Spaced (s : Passage) (timeout : Span) (l : Link) : Prop where
  apart : s.times.IsChain fun earlier later => earlier.after timeout ≤ later
  queued : ∀ ahead, s.place = .queued ahead → s.deeds = []
  outstanding : s.place = .outstanding →
    ∃ current, l.outstanding = some current ∧ s.times.getLast? = some current.sentAt
  givenUp : ∀ now, .givenUp now ∈ s.deeds → s.place = .gone ∧
    ∃ last, s.times.getLast? = some last ∧ last.after timeout ≤ now

variable {s : Passage} {timeout : Span} {l next : Link} {now : Instant} {outcome : CycleOutcome}

namespace Spaced

theorem of_same (h : s.Spaced timeout l) (hout : next.outstanding = l.outstanding) :
    s.Spaced timeout next :=
  ⟨h.apart, h.queued, hout ▸ h.outstanding, h.givenUp⟩

theorem of_gone (h : s.Spaced timeout l) (hgone : s.place = .gone) : s.Spaced timeout next :=
  ⟨h.apart, h.queued, fun hout => (nomatch hgone.symm.trans hout), h.givenUp⟩

theorem queue (ahead : Nat) : Spaced ⟨.queued ahead, []⟩ timeout l :=
  ⟨.nil, fun _ _ => rfl, nofun, nofun⟩

theorem leave (h : s.Spaced timeout l) : Spaced { s with place := .gone } timeout next :=
  ⟨h.apart, nofun, nofun, fun now hmem => ⟨rfl, (h.givenUp now hmem).2⟩⟩

theorem drop : Spaced ⟨.gone, [.dropped]⟩ timeout l :=
  ⟨.nil, nofun, nofun, by simp⟩

theorem write (h : s.Spaced timeout l) (hplace : s.place ≠ .gone) {item : Item}
    (hout : next.outstanding = some ⟨item, now⟩)
    (hlate : ∀ last, s.times.getLast? = some last → last.after timeout ≤ now) (frame : Bytes) :
    Spaced ⟨.outstanding, s.deeds ++ [.written outcome now frame]⟩ timeout next := by
  have htimes : times ⟨.outstanding, s.deeds ++ [.written outcome now frame]⟩ =
      s.times ++ [now] := by
    simp [times, Deed.writtenAt?]
  constructor
  case apart =>
    rw [htimes, List.isChain_append]
    exact ⟨h.apart, .singleton now, by simpa using hlate⟩
  case queued => exact nofun
  case outstanding =>
    intro _
    rw [htimes]
    exact ⟨_, hout, List.getLast?_concat⟩
  case givenUp =>
    intro time hmem
    have hearlier : .givenUp time ∈ s.deeds := by simpa using hmem
    exact absurd (h.givenUp time hearlier).1 hplace

theorem giveUp (h : s.Spaced timeout l) (hplace : s.place ≠ .gone) {last : Instant}
    (hlast : s.times.getLast? = some last) (hlate : last.after timeout ≤ now) :
    Spaced ⟨.gone, s.deeds ++ [.givenUp now]⟩ timeout next := by
  have htimes : times ⟨.gone, s.deeds ++ [.givenUp now]⟩ = s.times := by
    simp [times, Deed.writtenAt?]
  refine ⟨htimes ▸ h.apart, nofun, nofun, ?_⟩
  intro time hmem
  rw [htimes]
  rcases List.mem_append.mp hmem with hearlier | hend
  · exact absurd (h.givenUp time hearlier).1 hplace
  · cases List.mem_singleton.mp hend
    exact ⟨rfl, last, hlast, hlate⟩

theorem answer (h : s.Spaced timeout l) (hplace : s.place = .outstanding)
    (hout : next.outstanding = l.outstanding) :
    Spaced { s with deeds := s.deeds ++ [.answered] } timeout next := by
  have htimes : times { s with deeds := s.deeds ++ [.answered] } = s.times := by
    simp [times, Deed.writtenAt?]
  constructor
  case apart => exact htimes ▸ h.apart
  case queued => exact fun ahead hqueued => nomatch hplace.symm.trans hqueued
  case outstanding =>
    rw [htimes, hout]
    exact h.outstanding
  case givenUp =>
    intro time hmem
    rw [htimes]
    exact h.givenUp time (by simpa using hmem)

/-! ## Runs -/

theorem of_turn (hpos : 0 < l.tuning.responseTimeout) (h : s.Spaced l.tuning.responseTimeout l)
    (hturn : l.Turn now outcome next) :
    (s.turn l now outcome next).Spaced l.tuning.responseTimeout next := by
  obtain ⟨place, deeds⟩ := s
  cases place with
  | gone => exact h.of_gone rfl
  | queued ahead =>
      obtain rfl : deeds = [] := h.queued ahead rfl
      simp only [turn]
      split
      case isTrue => exact .queue _
      case isFalse =>
        split
        case isTrue hfirst =>
          obtain ⟨item, hout, hframe⟩ := hturn.sent (.inl hfirst.1)
          rw [hframe]
          exact h.write (by simp) hout (by simp [times]) _
        case isFalse => exact .drop
  | outstanding =>
      obtain ⟨current, hout, hlast⟩ := h.outstanding rfl
      -- what is overdue is overdue since the last write of this packet
      have hlate (hdone : outcome = .retransmitted ∨ outcome = .gaveUp) :
          current.sentAt.after l.tuning.responseTimeout ≤ now := by
        obtain ⟨other, hother, hsince⟩ := hturn.overdue hdone
        cases hout.symm.trans hother
        exact Instant.after_le_of_since hpos hsince
      cases outcome with
      | sentHigh => exact h.of_same (hturn.outstanding_eq (.inl rfl))
      | waiting => exact h.of_same (hturn.outstanding_eq (.inr rfl))
      | idle | sentLow => exact h.leave
      | gaveUp => exact h.giveUp (by simp) hlast (hlate (.inr rfl))
      | retransmitted =>
          obtain ⟨item, hsent, hframe⟩ := hturn.sent (.inr rfl)
          simp only [turn, hframe]
          refine h.write (by simp) hsent (fun last hsame => ?_) _
          cases hlast.symm.trans hsame
          exact hlate (.inl rfl)

theorem of_after {t : Traffic} (hpos : 0 < t.link.tuning.responseTimeout)
    (h : s.Spaced t.link.tuning.responseTimeout t.link) (e : Event) :
    (s.after t e).Spaced t.link.tuning.responseTimeout (t.step e).link := by
  cases e with
  | send attempts priority p =>
      rw [Traffic.step, Link.sendWith_eq]
      exact h.of_same rfl
  | lineFails failing => exact h.of_same rfl
  | cycle now => exact h.of_turn hpos (t.link.turn_cycle now)
  | receive source bytes =>
      have hout := (t.link.receive_sameSending (t.sources source) bytes).1.outstanding
      simp only [after]
      split
      case isTrue hanswered => exact h.answer hanswered.1 hout
      case isFalse => exact h.of_same hout

theorem of_follow {t : Traffic} (hpos : 0 < t.link.tuning.responseTimeout)
    (h : s.Spaced t.link.tuning.responseTimeout t.link) (events : List Event) :
    (t.follow s events).Spaced t.link.tuning.responseTimeout (t.run events).link := by
  induction events generalizing t s with
  | nil => exact h
  | cons e rest ih =>
      have htuning := t.tuning_step e
      have hnext := h.of_after hpos e
      rw [← htuning] at hpos hnext ⊢
      exact ih hpos hnext

end Spaced

end Passage

theorem Instant.after_le_of_isChain {span : Span} {times : List Instant} {first last : Instant}
    (hapart : times.IsChain fun earlier later => earlier.after span ≤ later)
    (hfirst : times.head? = some first) (hlast : times.getLast? = some last) :
    first.after ((times.length - 1) * span) ≤ last := by
  induction times generalizing first with
  | nil => cases hfirst
  | cons time rest ih =>
      cases hfirst
      cases rest with
      | nil =>
          cases hlast
          simp [after]
      | cons next rest =>
          obtain ⟨hstep, hrest⟩ := List.isChain_cons_cons.mp hapart
          rw [List.getLast?_cons_cons] at hlast
          calc time.after ((rest.length + 1) * span)
              = (time.after span).after (rest.length * span) := by
                rw [after_after, Nat.succ_mul, Nat.add_comm]
            _ ≤ next.after (rest.length * span) := after_le_after hstep (Nat.le_refl _)
            _ ≤ last := ih hrest rfl hlast

namespace Passage

variable {s : Passage} {timeout : Span} {l : Link} {now : Instant}

theorem Spaced.le_of_givenUp (h : s.Spaced timeout l) (hgivenUp : .givenUp now ∈ s.deeds) :
    ∃ first, s.times.head? = some first ∧ first.after (s.times.length * timeout) ≤ now := by
  obtain ⟨-, last, hlast, hend⟩ := h.givenUp now hgivenUp
  cases htimes : s.times with
  | nil => simp [htimes] at hlast
  | cons first rest =>
      refine ⟨first, rfl, ?_⟩
      have hapart := h.apart
      rw [htimes] at hapart hlast
      have hwritten := Instant.after_le_of_isChain hapart rfl hlast
      calc first.after ((rest.length + 1) * timeout)
          = (first.after (rest.length * timeout)).after timeout := by
            rw [Instant.after_after, Nat.succ_mul]
        _ ≤ last.after timeout := Instant.after_le_after hwritten (Nat.le_refl _)
        _ ≤ now := hend

theorem length_times (s : Passage) : s.times.length = s.writes.length := by
  obtain ⟨place, deeds⟩ := s
  simp only [times, writes]
  induction deeds with
  | nil => rfl
  | cons deed rest ih =>
      rw [List.filterMap_cons, List.filterMap_cons]
      cases deed with
      | written => exact congrArg (· + 1) ih
      | answered | givenUp | dropped => exact ih

end Passage

namespace Traffic

variable {t : Traffic}

theorem spaced_passage (hpos : 0 < t.link.tuning.responseTimeout) (n : Nat) (p : Packet)
    (events : List Event) :
    (t.passage n p events).Spaced t.link.tuning.responseTimeout
      ((t.queue n p).run events).link := by
  have htuning : (t.queue n p).link.tuning = t.link.tuning := t.tuning_step (.send n .low p)
  rw [← htuning] at hpos ⊢
  exact (Passage.Spaced.queue _).of_follow hpos events

theorem le_length_times_of_givenUp {n : Nat} {p : Packet} {events : List Event} {now : Instant}
    (h : .givenUp now ∈ (t.passage n p events).deeds) :
    n ≤ (t.passage n p events).times.length := by
  rcases Nat.eq_zero_or_pos n with rfl | hn
  · exact Nat.zero_le _
  · rw [Passage.length_times]
    exact ((t.stands_passage hn p events).withinBudget.givenUp now h).2.ge

/--
A low-priority packet is queued on a link with a positive response timeout, and the link runs on a
clock that may show anything.  The packet is written again at least the timeout after it was
written, and given up at least the timeout after it was last written, which is the time that the
exchange keeps; so one with a budget is given up no sooner than that many timeouts after its first
write.  A cycle that finds an exchange overdue and nothing urgent does not wait: it writes the
packet again or gives it up.
-/
theorem resends_spaced (hpos : 0 < t.link.tuning.responseTimeout) (n : Nat) (p : Packet)
    (events : List Event) :
    let timeout := t.link.tuning.responseTimeout
    let s := t.passage n p events
    s.Spaced timeout ((t.queue n p).run events).link ∧
      (∀ now, .givenUp now ∈ s.deeds →
        ∃ first, s.times.head? = some first ∧ first.after (n * timeout) ≤ now) ∧
      ∀ (l : Link) (now : Instant) (current : Exchange), l.sendHigh = [] → l.permitHeld = true →
        l.outstanding = some current → current.sentAt.after l.tuning.responseTimeout ≤ now →
        (l.cycle now).1 = if 0 < current.item.attemptsLeft then .retransmitted else .gaveUp := by
  intro timeout s
  have hspaced : s.Spaced timeout ((t.queue n p).run events).link := spaced_passage hpos n p events
  refine ⟨hspaced, ?budget, fun l now current => Link.cycle_of_overdue⟩
  case budget =>
    intro now hgivenUp
    obtain ⟨first, hfirst, hend⟩ := hspaced.le_of_givenUp hgivenUp
    have hwritten : n ≤ s.times.length := le_length_times_of_givenUp hgivenUp
    refine ⟨first, hfirst, Int.le_trans ?_ hend⟩
    exact Instant.after_le_after (Int.le_refl first) (Nat.mul_le_mul_right timeout hwritten)

theorem resends_spaced_clock_set_back :
    let p := Packet.sealed .commonCommand [0x03] []
    let t := fresh {}
    let events : List Event := [.cycle 0, .cycle (-700000000), .send 1 .high p, .cycle 500000000,
      .cycle 600000000, .cycle 100000000, .cycle 1100000000]
    let s := t.passage 2 p events
    0 < t.link.tuning.responseTimeout ∧
      s.deeds = [.written .sentLow 0 p.encode, .written .retransmitted 600000000 p.encode,
        .givenUp 1100000000] ∧
      s.Spaced t.link.tuning.responseTimeout ((t.queue 2 p).run events).link ∧
      ∃ first, s.times.head? = some first ∧
        first.after (2 * t.link.tuning.responseTimeout) ≤ 1100000000 := by
  refine ⟨by decide, ?deeds, ?spaced, ?budget⟩
  case deeds => rfl
  case spaced => exact (resends_spaced (t := fresh {}) (by decide) 2 _ _).1
  case budget =>
    refine (resends_spaced (t := fresh {}) (by decide) 2 _ _).2.1 _ ?_
    exact List.mem_of_getElem? (i := 2) rfl

end Traffic

end Esp3Host
