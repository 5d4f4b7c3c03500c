import Mathlib.Algebra.GroupWithZero.Nat
import Esp3Host.Proofs.Link.Passage

/-!
# The way through the queue

Low-priority packets enter their queue behind and leave it in front, the one in flight is the last
that left, and every frame is that of an urgent packet or of the one in flight.  What is ahead of a
queued packet is therefore a number of cycles that only urgent packets add to, and every cycle that
does not wait uses one of them up.
-/

namespace Esp3Host

def Event.isCycle : Event → Bool
  | .cycle _ => true
  | .send _ _ _ | .receive _ _ | .lineFails _ => false

theorem Event.exists_cycle {e : Event} (h : e.isCycle = true) : ∃ now, e = .cycle now := by
  cases e with
  | send | receive | lineFails => cases h
  | cycle now => exact ⟨now, rfl⟩

def Event.queued : Event → List Item
  | .send attempts .low p => [⟨p, attempts⟩]
  | .send _ .high _ | .receive _ _ | .cycle _ | .lineFails _ => []

def Traffic.handed (t : Traffic) (e : Event) : List Bytes := t.link.handedUntil (t.step e).link

/-- The packet of the last item that leaves the queue, or else the one in flight. -/
def Link.inFlightAfter (l : Link) (left : List Item) : Option Packet :=
  (left.getLast?.map Item.packet).or (l.outstanding.map fun current => current.item.packet)

/--
Packets enter the queue behind and leave it in front, and the last that left is in flight.  Only
cycles write, and only what is urgent or in flight.  The line takes that or refuses it.
-/
structure Traffic.Orderly (t : Traffic) (e : Event) : Prop where
  queue : ∃ left, t.link.sendLow ++ e.queued = left ++ (t.step e).link.sendLow ∧
    ∀ current, (t.step e).link.outstanding = some current →
      some current.item.packet = t.link.inFlightAfter left
  frames : t.handed e =
    match e with
    | .cycle now => (t.link.cycle now).1.frames t.link (t.step e).link
    | .send _ _ _ | .receive _ _ | .lineFails _ => []
  line : (t.step e).link.line.frames =
      t.link.line.frames ++ (if t.link.line.failing then [] else t.handed e) ∧
    (t.step e).link.counters.writeErrors =
      t.link.counters.writeErrors + if t.link.line.failing then (t.handed e).length else 0

namespace Link

theorem inFlightAfter_nil (l : Link) :
    l.inFlightAfter [] = l.outstanding.map fun current => current.item.packet := rfl

theorem inFlightAfter_concat (l : Link) (left : List Item) (item : Item) :
    l.inFlightAfter (left ++ [item]) = some item.packet := by
  rw [inFlightAfter, List.getLast?_concat]
  rfl

theorem Turn.queue_eq {l next : Link} {now : Instant} {outcome : CycleOutcome}
    (hturn : l.Turn now outcome next) :
    ∃ left, l.sendLow = left ++ next.sendLow ∧
      ∀ current, next.outstanding = some current →
        some current.item.packet = l.inFlightAfter left := by
  cases hturn with
  | urgent item rest =>
      rw [writeHigh_eq]
      refine ⟨[], rfl, fun current hout => ?_⟩
      rw [inFlightAfter_nil, show l.outstanding = some current from hout]
      rfl
  | alone | waiting =>
      refine ⟨[], rfl, fun current hout => ?_⟩
      rw [inFlightAfter_nil, hout]
      rfl
  | resent current hhigh hheld hout =>
      rw [resend_eq]
      refine ⟨[], rfl, fun again hagain => ?_⟩
      cases hagain
      rw [inFlightAfter_nil, hout]
      rfl
  | gaveUp current =>
      rw [giveUp_eq]
      exact ⟨[], rfl, nofun⟩
  | idle =>
      rw [dropAll_eq, collect_eq]
      exact ⟨l.sendLow, (List.append_nil _).symm, nofun⟩
  | started spent item rest hhigh hfree hlow =>
      rw [beginExchange_eq]
      refine ⟨spent ++ [item], by simp [hlow], fun current hout => ?_⟩
      cases hout
      rw [inFlightAfter_concat]

end Link

namespace Traffic

theorem ordinary_step {t : Traffic} {e : Event} (h : e.isCycle = false) :
    (t.step e).link.sendLow = t.link.sendLow ++ e.queued ∧
      (t.step e).link.outstanding = t.link.outstanding := by
  cases e with
  | send attempts priority p =>
      rw [step, Link.sendWith_eq]
      cases priority <;> exact ⟨rfl, rfl⟩
  | receive source bytes =>
      obtain ⟨hsame, -⟩ := t.link.receive_sameSending (t.sources source) bytes
      exact ⟨hsame.sendLow.trans (List.append_nil _).symm, hsame.outstanding⟩
  | lineFails failing => exact ⟨(List.append_nil _).symm, rfl⟩
  | cycle now => cases h

theorem queue_of_not_cycle {t : Traffic} {e : Event} (h : e.isCycle = false) :
    ∃ left, t.link.sendLow ++ e.queued = left ++ (t.step e).link.sendLow ∧
      ∀ current, (t.step e).link.outstanding = some current →
        some current.item.packet = t.link.inFlightAfter left := by
  obtain ⟨hlow, hout⟩ := ordinary_step (t := t) h
  refine ⟨[], hlow.symm, fun current hcurrent => ?_⟩
  rw [Link.inFlightAfter_nil, ← hout, hcurrent]
  rfl

theorem handed_eq_nil {t : Traffic} {e : Event}
    (h : (t.step e).link.journal.handed = t.link.journal.handed) : t.handed e = [] :=
  Link.handedUntil_of_append (h.trans (List.append_nil _).symm)

theorem orderly (t : Traffic) (e : Event) : t.Orderly e := by
  cases e with
  | send attempts priority p =>
      have hnothing : t.handed (.send attempts priority p) = [] :=
        handed_eq_nil (t.link.handed_sendWith attempts priority p)
      refine ⟨queue_of_not_cycle rfl, hnothing, ?_⟩
      rw [hnothing, step, Link.sendWith_eq]
      simp
  | receive source bytes =>
      obtain ⟨hsame, -⟩ := t.link.receive_sameSending (t.sources source) bytes
      have hnothing : t.handed (.receive source bytes) = [] :=
        handed_eq_nil (t.link.handed_receive (t.sources source) bytes)
      refine ⟨queue_of_not_cycle rfl, hnothing, ?_⟩
      rw [hnothing]
      simp only [step, hsame.line, hsame.writeErrors]
      simp
  | lineFails failing =>
      have hnothing : t.handed (.lineFails failing) = [] := handed_eq_nil rfl
      refine ⟨queue_of_not_cycle rfl, hnothing, ?_⟩
      rw [hnothing]
      simp [step]
  | cycle now =>
      have hturn := t.link.turn_cycle now
      have hframes : t.handed (.cycle now) =
          (t.link.cycle now).1.frames t.link (t.link.cycle now).2 :=
        Link.handedUntil_of_append hturn.handed_eq
      refine ⟨?_, hframes, ?_⟩
      · simp only [Event.queued, List.append_nil]
        exact hturn.queue_eq
      · rw [hframes]
        exact hturn.line_eq

end Traffic

/-! ## What is ahead of a packet -/

/-- How many cycles can do something before a packet with so many ahead of it is written. -/
def Link.workAhead (l : Link) (ahead : Nat) : Nat :=
  l.sendHigh.length + ((l.sendLow.take ahead).map fun item => item.attemptsLeft + 1).sum +
    (l.outstanding.map fun current => current.item.attemptsLeft + 1).getD 0

def CycleOutcome.busy (outcome : CycleOutcome) : Nat := if outcome = waiting then 0 else 1

def Event.urgent : Event → Nat
  | .send _ .high _ => 1
  | .send _ .low _ | .receive _ _ | .cycle _ | .lineFails _ => 0

namespace Traffic

def busy (t : Traffic) : Event → Nat
  | .cycle now => (t.link.cycle now).1.busy
  | .send _ _ _ | .receive _ _ | .lineFails _ => 0

def busyCycles (t : Traffic) : List Event → Nat
  | [] => 0
  | e :: rest => t.busy e + (t.step e).busyCycles rest

end Traffic

variable {p : Packet} {n ahead later : Nat} {l next : Link} {s : Passage} {t : Traffic}

theorem Link.Turn.workAhead_le {now : Instant} {outcome : CycleOutcome} (hn : 1 ≤ n)
    (hturn : l.Turn now outcome next) (h : l.sendLow[ahead]? = some ⟨p, n⟩)
    (hleft : l.sendLow.length - next.sendLow.length ≤ ahead) :
    next.workAhead (ahead - (l.sendLow.length - next.sendLow.length)) + outcome.busy ≤
      l.workAhead ahead := by
  cases hturn with
  | urgent item rest hhigh =>
      have hbusy : CycleOutcome.sentHigh.busy = 1 := rfl
      rw [writeHigh_eq]
      simp only [workAhead, hbusy, hhigh, List.length_cons, Nat.sub_self, Nat.sub_zero]
      omega
  | alone | waiting =>
      rw [Nat.sub_self]
      exact Nat.le_refl _
  | resent current hhigh hheld hout hlate hpos =>
      have hbusy : CycleOutcome.retransmitted.busy = 1 := rfl
      rw [resend_eq]
      simp only [workAhead, hbusy, hout, Option.map_some, Option.getD_some, Nat.sub_self,
        Nat.sub_zero]
      omega
  | gaveUp current hhigh hheld hout =>
      have hbusy : CycleOutcome.gaveUp.busy = 1 := rfl
      rw [giveUp_eq]
      simp only [workAhead, hbusy, hout, Option.map_some, Option.map_none, Option.getD_some,
        Option.getD_none, Nat.sub_self, Nat.sub_zero]
      omega
  | idle hhigh hfree hspent =>
      have hzero : n = 0 := hspent _ (List.mem_of_getElem? h)
      omega
  | started spent item rest hhigh hfree hlow hspent hpos =>
      have hbusy : CycleOutcome.sentLow.busy = 1 := rfl
      have hremoved : l.sendLow.length - rest.length = spent.length + 1 := by
        rw [hlow, List.length_append, List.length_cons]
        omega
      rw [beginExchange_eq] at hleft ⊢
      simp only [hremoved] at hleft ⊢
      -- What is ahead are the packets dropped, the one written and those that stay ahead.
      obtain ⟨staying, rfl⟩ := Nat.exists_eq_add_of_le hleft
      have hahead : l.sendLow.take (spent.length + 1 + staying) =
          spent ++ item :: rest.take staying := by
        rw [hlow, Nat.add_assoc, List.take_length_add_append, Nat.add_comm 1, List.take_succ_cons]
      rw [workAhead, workAhead, hahead, dropAll_eq, collect_eq, hbusy, Nat.add_sub_cancel_left]
      simp only [Option.map_some, Option.getD_some, List.map_append, List.map_cons,
        List.sum_append, List.sum_cons]
      omega

namespace Passage

theorem queued_of_turn {now : Instant} {outcome : CycleOutcome} {deeds : List Deed}
    (h : (turn ⟨.queued ahead, deeds⟩ l now outcome next).place = .queued later) :
    l.sendLow.length - next.sendLow.length ≤ ahead ∧
      later = ahead - (l.sendLow.length - next.sendLow.length) := by
  simp only [turn] at h
  split at h
  · cases h
    exact ⟨‹_›, rfl⟩
  · split at h <;> cases h

theorem exists_queued_of_after {e : Event} (h : (s.after t e).place = .queued later) :
    ∃ ahead, s.place = .queued ahead := by
  obtain ⟨place, deeds⟩ := s
  cases place with
  | queued ahead => exact ⟨ahead, rfl⟩
  | gone => cases e <;> simp [after, turn] at h
  | outstanding =>
      cases e with
      | send | lineFails => cases h
      | receive source bytes =>
          simp only [after] at h
          split at h <;> cases h
      | cycle now =>
          simp only [after, turn] at h
          split at h <;> cases h

theorem exists_queued_of_follow {events : List Event}
    (h : (t.follow s events).place = .queued later) : ∃ ahead, s.place = .queued ahead := by
  induction events generalizing t s with
  | nil => exact ⟨later, h⟩
  | cons e rest ih =>
      obtain ⟨between, hbetween⟩ := ih h
      exact exists_queued_of_after hbetween

theorem workAhead_after {e : Event} (hn : 1 ≤ n) (hstands : s.Stands p n t.link)
    (h : s.place = .queued ahead) (hstill : (s.after t e).place = .queued later) :
    (t.step e).link.workAhead later + t.busy e ≤ t.link.workAhead ahead + e.urgent := by
  cases hstands with
  | inFlight | answered | putAway | givenUp => cases h
  | queued hitem =>
      cases h
      cases e with
      | send attempts priority other =>
          cases hstill
          obtain ⟨hlt, -⟩ := List.getElem?_eq_some_iff.mp hitem
          have hahead : (t.link.sendLow ++ [(⟨other, attempts⟩ : Item)]).take ahead =
              t.link.sendLow.take ahead := List.take_append_of_le_length (Nat.le_of_lt hlt)
          rw [Traffic.step, Link.sendWith_eq]
          cases priority with
          | high => simp [Link.workAhead, Traffic.busy, Event.urgent]; omega
          | low => simp [Link.workAhead, Traffic.busy, Event.urgent, hahead]
      | receive source bytes =>
          obtain ⟨hsame, -⟩ := t.link.receive_sameSending (t.sources source) bytes
          cases hstill
          simp only [Traffic.step, Link.workAhead, hsame.sendHigh, hsame.sendLow,
            hsame.outstanding]
          exact Nat.le_refl _
      | lineFails failing =>
          cases hstill
          exact Nat.le_refl _
      | cycle now =>
          obtain ⟨hleft, rfl⟩ := queued_of_turn hstill
          exact (t.link.turn_cycle now).workAhead_le hn hitem hleft

theorem workAhead_follow {events : List Event} (hn : 1 ≤ n) (hstands : s.Stands p n t.link)
    (h : s.place = .queued ahead) (hstill : (t.follow s events).place = .queued later) :
    (t.run events).link.workAhead later + t.busyCycles events ≤
      t.link.workAhead ahead + (events.map Event.urgent).sum := by
  induction events generalizing t s ahead with
  | nil =>
      cases h.symm.trans hstill
      exact Nat.le_refl _
  | cons e rest ih =>
      have hend : ((t.step e).follow (s.after t e) rest).place = .queued later := hstill
      obtain ⟨between, hbetween⟩ := exists_queued_of_follow hend
      have hone := workAhead_after hn hstands h hbetween
      have hrest := ih (hstands.of_after hn e) hbetween hend
      simp only [Traffic.run, List.foldl_cons, Traffic.busyCycles, List.map_cons,
        List.sum_cons] at hrest ⊢
      omega

end Passage

end Esp3Host
