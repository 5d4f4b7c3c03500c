import Esp3Host.Proofs.Link.Handed
import Esp3Host.Proofs.Link.Traffic

/-!
# The passage of one packet

A low-priority packet is followed from the moment in which it is queued.  The queue is first in,
first out, so its place is the number of packets ahead of it; the write that takes it from the queue
makes it the outstanding one, and from then on every resend, and the first response that frees the
permit, is its own.  What happens to it is read off the link before and after each event.
-/

namespace Esp3Host

/--
What happens to a low-priority packet: a cycle hands a frame for it to the line, a response is
accepted while it holds the permit, it is given up, or it is dropped without a write.
-/
inductive Deed where
  | written (outcome : CycleOutcome) (now : Instant) (frame : Bytes)
  | answered
  | givenUp (now : Instant)
  | dropped

inductive Place where
  | queued (ahead : Nat)
  | outstanding
  | gone
  deriving DecidableEq

structure Passage where
  place : Place
  deeds : List Deed := []

def Deed.write? : Deed → Option (CycleOutcome × Bytes)
  | written outcome _ frame => some (outcome, frame)
  | answered | givenUp _ | dropped => none

namespace Passage

def writes (s : Passage) : List (CycleOutcome × Bytes) := s.deeds.filterMap Deed.write?

def turn (s : Passage) (l : Link) (now : Instant) (outcome : CycleOutcome) (next : Link) :
    Passage :=
  let removed := l.sendLow.length - next.sendLow.length
  let written := (l.handedUntil next).map (.written outcome now)
  match s.place with
  | .queued ahead =>
      if removed ≤ ahead then { s with place := .queued (ahead - removed) }
      else if outcome = .sentLow ∧ removed = ahead + 1 then ⟨.outstanding, s.deeds ++ written⟩
      else ⟨.gone, s.deeds ++ [.dropped]⟩
  | .outstanding =>
      match outcome with
      | .retransmitted => { s with deeds := s.deeds ++ written }
      | .gaveUp => ⟨.gone, s.deeds ++ [.givenUp now]⟩
      | .idle | .sentLow => { s with place := .gone }
      | .sentHigh | .waiting => s
  | .gone => s

def after (s : Passage) (t : Traffic) : Event → Passage
  | .cycle now => s.turn t.link now (t.link.cycle now).1 (t.link.cycle now).2
  | .receive source bytes =>
      if s.place = .outstanding ∧ t.link.permitHeld = true ∧
          ((t.sources source).push bytes).2.any Report.isResponse = true then
        { s with deeds := s.deeds ++ [.answered] }
      else s
  | .send _ _ _ | .lineFails _ => s

end Passage

def Traffic.follow (t : Traffic) (s : Passage) : List Event → Passage
  | [] => s
  | e :: rest => (t.step e).follow (s.after t e) rest

theorem Traffic.follow_append (t : Traffic) (s : Passage) (first second : List Event) :
    t.follow s (first ++ second) = (t.run first).follow (t.follow s first) second := by
  induction first generalizing t s with
  | nil => rfl
  | cons e rest ih => exact ih (t.step e) (s.after t e)

/-! ## Nothing that happened is taken back -/

theorem Passage.deeds_after (s : Passage) (t : Traffic) (e : Event) :
    s.deeds <+: (s.after t e).deeds := by
  cases e with
  | send | lineFails => exact List.prefix_refl _
  | receive source bytes =>
      simp only [after]
      split
      · exact List.prefix_append _ _
      · exact List.prefix_refl _
  | cycle now =>
      simp only [after, turn]
      split
      · split
        · exact List.prefix_refl _
        · split <;> exact List.prefix_append _ _
      · split <;> first | exact List.prefix_append _ _ | exact List.prefix_refl _
      · exact List.prefix_refl _

theorem Traffic.deeds_follow (t : Traffic) (s : Passage) (events : List Event) :
    s.deeds <+: (t.follow s events).deeds := by
  induction events generalizing t s with
  | nil => exact List.prefix_refl _
  | cons e rest ih => exact (s.deeds_after t e).trans (ih (t.step e) (s.after t e))

/-! ## What can happen -/

inductive Written (p : Packet) : Nat → List Deed → Prop
  | first (now) : Written p 1 [.written .sentLow now p.encode]
  | again {count deeds} (h : Written p count deeds) (now) :
      Written p (count + 1) (deeds ++ [.written .retransmitted now p.encode])

/-- How the passage of a packet with a budget stands with a link. -/
inductive Passage.Stands (p : Packet) (n : Nat) (l : Link) : Passage → Prop
  | queued {ahead} (h : l.sendLow[ahead]? = some ⟨p, n⟩) : Stands p n l ⟨.queued ahead, []⟩
  | inFlight {count left sentAt deeds} (h : Written p count deeds) (hsum : left + count = n)
      (hout : l.outstanding = some ⟨⟨p, left⟩, sentAt⟩) (hheld : l.permitHeld = true) :
      Stands p n l ⟨.outstanding, deeds⟩
  | answered {count left sentAt deeds} (h : Written p count deeds) (hsum : left + count = n)
      (hout : l.outstanding = some ⟨⟨p, left⟩, sentAt⟩) (hfree : l.permitHeld = false) :
      Stands p n l ⟨.outstanding, deeds ++ [.answered]⟩
  | putAway {count deeds} (h : Written p count deeds) (hle : count ≤ n) :
      Stands p n l ⟨.gone, deeds ++ [.answered]⟩
  | givenUp {deeds} (h : Written p n deeds) (now) : Stands p n l ⟨.gone, deeds ++ [.givenUp now]⟩

namespace Passage

variable {p : Packet} {n : Nat} {l next : Link} {s : Passage}

theorem getElem?_of_queue {items longer : List Item} {ahead : Nat} {item : Item}
    (hlow : ∃ more, longer = items ++ more) (h : items[ahead]? = some item) :
    longer[ahead]? = some item := by
  obtain ⟨more, rfl⟩ := hlow
  obtain ⟨hlt, -⟩ := List.getElem?_eq_some_iff.mp h
  rw [List.getElem?_append_left hlt, h]

theorem Stands.congr (h : s.Stands p n l) (hlow : ∃ more, next.sendLow = l.sendLow ++ more)
    (hout : next.outstanding = l.outstanding) (hpermit : next.permitHeld = l.permitHeld) :
    s.Stands p n next := by
  cases h with
  | queued h => exact .queued (getElem?_of_queue hlow h)
  | inFlight h hsum hout' hheld => exact .inFlight h hsum (hout.trans hout') (hpermit.trans hheld)
  | answered h hsum hout' hfree => exact .answered h hsum (hout.trans hout') (hpermit.trans hfree)
  | putAway h hle => exact .putAway h hle
  | givenUp h now => exact .givenUp h now

theorem le_of_getElem?_of_spent {spent behind : List Item} {ahead : Nat} (hn : 1 ≤ n)
    (h : (spent ++ behind)[ahead]? = some ⟨p, n⟩) (hspent : ∀ item ∈ spent, item.attemptsLeft = 0) :
    spent.length ≤ ahead := by
  rcases Nat.lt_or_ge ahead spent.length with hlt | hge
  · rw [List.getElem?_append_left hlt] at h
    have hzero : n = 0 := hspent _ (List.mem_of_getElem? h)
    omega
  · exact hge

section

variable {now : Instant} {outcome : CycleOutcome} {ahead : Nat}

theorem turn_queued_later {deeds : List Deed}
    (h : l.sendLow.length - next.sendLow.length ≤ ahead) :
    turn ⟨.queued ahead, deeds⟩ l now outcome next =
      ⟨.queued (ahead - (l.sendLow.length - next.sendLow.length)), deeds⟩ := by
  simp [turn, h]

theorem turn_queued_first {deeds : List Deed}
    (h : l.sendLow.length - next.sendLow.length = ahead + 1) :
    turn ⟨.queued ahead, deeds⟩ l now .sentLow next =
      ⟨.outstanding, deeds ++ (l.handedUntil next).map (.written .sentLow now)⟩ := by
  simp [turn, h]

theorem stands_queued_of_kept (h : l.sendLow[ahead]? = some ⟨p, n⟩)
    (hlow : next.sendLow = l.sendLow) :
    (turn ⟨.queued ahead, []⟩ l now outcome next).Stands p n next := by
  have hnone : l.sendLow.length - next.sendLow.length = 0 := by
    rw [hlow, Nat.sub_self]
  rw [turn_queued_later (by omega), hnone]
  exact .queued (hlow ▸ h)

theorem stands_queued_begin {begun : Link} {spent rest : List Item} {item : Item} (hn : 1 ≤ n)
    (h : l.sendLow[ahead]? = some ⟨p, n⟩) (hlow : l.sendLow = spent ++ item :: rest)
    (hspent : ∀ item ∈ spent, item.attemptsLeft = 0) (hheld : begun.permitHeld = true)
    (hhanded : begun.journal.handed = l.journal.handed) :
    (turn ⟨.queued ahead, []⟩ l now .sentLow (begun.beginExchange now item rest)).Stands p n
      (begun.beginExchange now item rest) := by
  have hrest : (begun.beginExchange now item rest).sendLow = rest := by
    rw [Link.beginExchange_eq]
  have hremoved : l.sendLow.length - (begun.beginExchange now item rest).sendLow.length =
      spent.length + 1 := by
    rw [hrest, hlow, List.length_append, List.length_cons]
    omega
  rw [hlow] at h
  have hahead := le_of_getElem?_of_spent hn h hspent
  rw [List.getElem?_append_right hahead] at h
  rcases Nat.lt_or_eq_of_le hahead with hlater | hfirst
  · rw [turn_queued_later (by omega), hremoved]
    refine .queued ?_
    rw [List.getElem?_cons, if_neg (by omega)] at h
    rw [hrest, ← h, Nat.sub_sub]
  · have hframe := Link.handed_beginExchange begun now item rest
    rw [hhanded] at hframe
    rw [turn_queued_first (by omega), Link.handedUntil_of_append hframe, Link.beginExchange_eq]
    rw [← hfirst, Nat.sub_self, List.getElem?_cons_zero] at h
    cases h
    exact .inFlight (.first now) (Nat.sub_add_cancel hn) rfl hheld

theorem stands_queued_turn (hn : 1 ≤ n) (h : l.sendLow[ahead]? = some ⟨p, n⟩)
    (hturn : l.Turn now outcome next) :
    (turn ⟨.queued ahead, []⟩ l now outcome next).Stands p n next := by
  cases hturn with
  | urgent item rest hhigh => exact stands_queued_of_kept h (by rw [Link.writeHigh_eq])
  | alone | waiting => exact stands_queued_of_kept h rfl
  | resent current => exact stands_queued_of_kept h (by rw [Link.resend_eq])
  | gaveUp current => exact stands_queued_of_kept h (by rw [Link.giveUp_eq])
  | idle hhigh hfree hspent =>
      have hzero : n = 0 := hspent _ (List.mem_of_getElem? h)
      omega
  | started spent item rest hhigh hfree hlow hspent hleft =>
      have hsame := Link.handed_dropAll (l.collect now) spent
      rw [Link.handed_collect] at hsame
      exact stands_queued_begin hn h hlow hspent rfl hsame

theorem stands_inFlight_turn {count left : Nat} {sentAt : Instant} {deeds : List Deed}
    (h : Written p count deeds) (hsum : left + count = n)
    (hout : l.outstanding = some ⟨⟨p, left⟩, sentAt⟩) (hheld : l.permitHeld = true)
    (hturn : l.Turn now outcome next) :
    (turn ⟨.outstanding, deeds⟩ l now outcome next).Stands p n next := by
  cases hturn with
  | urgent item rest hhigh =>
      rw [Link.writeHigh_eq]
      exact .inFlight h hsum hout hheld
  | alone | waiting => exact .inFlight h hsum hout hheld
  | resent current hhigh hheld' hcurrent hlate hleft =>
      cases hout.symm.trans hcurrent
      have hframe := Link.handed_resend l now ⟨⟨p, left⟩, sentAt⟩
      simp only [turn, Link.handedUntil_of_append hframe]
      rw [Link.resend_eq]
      have hpos : 0 < left := hleft
      have hnext : left - 1 + (count + 1) = n := by omega
      exact .inFlight (h.again now) hnext rfl hheld
  | gaveUp current hhigh hheld' hcurrent hlate hleft =>
      cases hout.symm.trans hcurrent
      have hzero : left = 0 := hleft
      have hall : count = n := by omega
      subst hall
      exact .givenUp h now
  | idle hhigh hfree | started spent item rest hhigh hfree => cases hheld.symm.trans hfree

theorem stands_answered_turn {count left : Nat} {sentAt : Instant} {deeds : List Deed}
    (h : Written p count deeds) (hsum : left + count = n)
    (hout : l.outstanding = some ⟨⟨p, left⟩, sentAt⟩) (hfree : l.permitHeld = false)
    (hturn : l.Turn now outcome next) :
    (turn ⟨.outstanding, deeds ++ [.answered]⟩ l now outcome next).Stands p n next := by
  cases hturn with
  | urgent item rest hhigh =>
      rw [Link.writeHigh_eq]
      exact .answered h hsum hout hfree
  | alone hhigh hheld | waiting current hhigh hheld | resent current hhigh hheld
  | gaveUp current hhigh hheld => cases hheld.symm.trans hfree
  | idle | started => exact .putAway h (by omega)

end

theorem Stands.of_turn {now : Instant} {outcome : CycleOutcome} (hn : 1 ≤ n)
    (h : s.Stands p n l) (hturn : l.Turn now outcome next) :
    (s.turn l now outcome next).Stands p n next := by
  cases h with
  | queued h => exact stands_queued_turn hn h hturn
  | inFlight h hsum hout hheld => exact stands_inFlight_turn h hsum hout hheld hturn
  | answered h hsum hout hfree => exact stands_answered_turn h hsum hout hfree hturn
  | putAway h hle => exact .putAway h hle
  | givenUp h now => exact .givenUp h now

theorem Stands.of_receive {t : Traffic} (h : s.Stands p n t.link) (source : Nat) (bytes : Bytes) :
    (s.after t (.receive source bytes)).Stands p n (t.step (.receive source bytes)).link := by
  obtain ⟨hsame, hpermit⟩ := t.link.receive_sameSending (t.sources source) bytes
  have hlow : ∃ more, (t.step (.receive source bytes)).link.sendLow = t.link.sendLow ++ more :=
    ⟨[], hsame.sendLow.trans (List.append_nil _).symm⟩
  have hout : (t.step (.receive source bytes)).link.outstanding = t.link.outstanding :=
    hsame.outstanding
  cases hresponse : ((t.sources source).push bytes).2.any Report.isResponse with
  | false =>
      rw [hresponse, Bool.not_false, Bool.and_true] at hpermit
      have hafter : s.after t (.receive source bytes) = s := by
        simp [after, hresponse]
      rw [hafter]
      exact h.congr hlow hout hpermit
  | true =>
      rw [hresponse, Bool.not_true, Bool.and_false] at hpermit
      cases h with
      | queued h => exact .queued (getElem?_of_queue hlow h)
      | inFlight h hsum hout' hheld =>
          simp only [after, hheld, hresponse]
          exact .answered h hsum (hout.trans hout') hpermit
      | answered h hsum hout' hfree =>
          simp only [after, hfree]
          exact .answered h hsum (hout.trans hout') hpermit
      | putAway h hle => exact .putAway h hle
      | givenUp h now => exact .givenUp h now

theorem Stands.of_after {t : Traffic} (hn : 1 ≤ n) (h : s.Stands p n t.link) (e : Event) :
    (s.after t e).Stands p n (t.step e).link := by
  cases e with
  | send attempts priority other =>
      rw [Traffic.step, Link.sendWith_eq]
      exact h.congr ⟨_, rfl⟩ rfl rfl
  | receive source bytes => exact h.of_receive source bytes
  | lineFails failing => exact h.congr ⟨[], (List.append_nil _).symm⟩ rfl rfl
  | cycle now => exact h.of_turn hn (t.link.turn_cycle now)

theorem Stands.of_follow {t : Traffic} (hn : 1 ≤ n) (h : s.Stands p n t.link)
    (events : List Event) : (t.follow s events).Stands p n (t.run events).link := by
  induction events generalizing t s with
  | nil => exact h
  | cons e rest ih => exact ih (h.of_after hn e)

end Passage

def Traffic.queue (t : Traffic) (n : Nat) (p : Packet) : Traffic := t.step (.send n .low p)

/-- The passage of a packet that is queued now, over the events that follow. -/
def Traffic.passage (t : Traffic) (n : Nat) (p : Packet) (events : List Event) : Passage :=
  (t.queue n p).follow ⟨.queued t.link.sendLow.length, []⟩ events

theorem Traffic.getElem?_queue (t : Traffic) (n : Nat) (p : Packet) :
    (t.queue n p).link.sendLow[t.link.sendLow.length]? = some ⟨p, n⟩ := by
  rw [queue, step, Link.sendWith_eq]
  simp

theorem Traffic.stands_passage (t : Traffic) {n : Nat} (hn : 1 ≤ n) (p : Packet)
    (events : List Event) :
    (t.passage n p events).Stands p n ((t.queue n p).run events).link :=
  Passage.Stands.of_follow hn (.queued (t.getElem?_queue n p)) events

end Esp3Host
