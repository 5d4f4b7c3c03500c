import Esp3Host.Proofs.Link.Traffic

/-!
# One exchange in flight

The permit and the exchange are changed in different places: a response frees the permit at once,
the exchange is put away by the next low-priority cycle.  What every event preserves is one
direction only, that a held permit belongs to an exchange.  A low-priority packet is first written
with the permit free and leaves it held, so between two such writes the permit must have been given
back.
-/

namespace Esp3Host

/-! ## The permit in one event -/

def Link.PermitOwned (l : Link) : Prop := l.permitHeld = true → l.outstanding.isSome = true

theorem Link.Turn.permitOwned {l next : Link} {now : Instant} {outcome : CycleOutcome}
    (hturn : l.Turn now outcome next) (h : l.PermitOwned) : next.PermitOwned := by
  cases hturn with
  | urgent item rest hhigh =>
      rw [writeHigh_eq]
      exact h
  | alone | waiting => exact h
  | resent current =>
      rw [resend_eq]
      exact fun _ => rfl
  | gaveUp current =>
      rw [giveUp_eq]
      exact nofun
  | idle hhigh hfree =>
      rw [dropAll_eq, collect_eq]
      exact fun hheld => nomatch hheld.symm.trans hfree
  | started spent item rest =>
      rw [beginExchange_eq]
      exact fun _ => rfl

def CycleOutcome.permitAfter (held : Bool) : CycleOutcome → Bool
  | sentLow => true
  | gaveUp => false
  | idle | sentHigh | waiting | retransmitted => held

theorem CycleOutcome.eq_gaveUp_of_permitAfter {outcome : CycleOutcome}
    (h : outcome.permitAfter true = false) : outcome = .gaveUp := by
  cases outcome with
  | gaveUp => rfl
  | idle | sentHigh | sentLow | waiting | retransmitted => cases h

theorem Link.Turn.permitHeld {l next : Link} {now : Instant} {outcome : CycleOutcome}
    (hturn : l.Turn now outcome next) : next.permitHeld = outcome.permitAfter l.permitHeld := by
  cases hturn with
  | urgent item rest => rw [writeHigh_eq]; rfl
  | alone | waiting | gaveUp => rfl
  | resent current => rw [resend_eq]; rfl
  | idle => rw [dropAll_eq, collect_eq]; rfl
  | started spent item rest => rw [beginExchange_eq]; rfl

theorem Link.Turn.free_of_sentLow {l next : Link} {now : Instant}
    (hturn : l.Turn now .sentLow next) : l.permitHeld = false := by
  cases hturn with
  | started spent item rest hhigh hfree => exact hfree

namespace Traffic

theorem permitOwned_step (t : Traffic) (e : Event) (h : t.link.PermitOwned) :
    (t.step e).link.PermitOwned := by
  cases e with
  | send attempts priority p =>
      rw [step, Link.sendWith_eq]
      exact h
  | receive source bytes =>
      obtain ⟨hsame, hpermit⟩ := t.link.receive_sameSending (t.sources source) bytes
      intro hheld
      simp only [step] at hheld ⊢
      rw [hpermit, Bool.and_eq_true] at hheld
      rw [hsame.outstanding]
      exact h hheld.1
  | lineFails failing => exact h
  | cycle now => exact (t.link.turn_cycle now).permitOwned h

theorem permitOwned_run (tuning : Tuning) (events : List Event) :
    ((fresh tuning).run events).link.PermitOwned :=
  run_induction permitOwned_step (fresh tuning) events nofun

def Starts (t : Traffic) (e : Event) : Prop :=
  ∃ now, e = .cycle now ∧ (t.link.cycle now).1 = .sentLow

/-- An event that gives a held permit back: by an accepted response, or because an exchange was
given up. -/
def Releases (t : Traffic) (e : Event) : Prop :=
  t.link.permitHeld = true ∧ (t.step e).link.permitHeld = false ∧
    ((∃ source bytes p, e = .receive source bytes ∧
        .ok p ∈ ((t.sources source).push bytes).2 ∧ p.kind = .response) ∨
      ∃ now, e = .cycle now ∧ (t.link.cycle now).1 = .gaveUp)

theorem releases_of_permitHeld {t : Traffic} {e : Event} (hheld : t.link.permitHeld = true)
    (hfree : (t.step e).link.permitHeld = false) : t.Releases e := by
  refine ⟨hheld, hfree, ?_⟩
  cases e with
  | send attempts priority p =>
      rw [step, Link.sendWith_eq] at hfree
      cases hheld.symm.trans hfree
  | lineFails failing => cases hheld.symm.trans hfree
  | cycle now =>
      right
      refine ⟨now, rfl, CycleOutcome.eq_gaveUp_of_permitAfter ?_⟩
      rw [← hheld, ← (t.link.turn_cycle now).permitHeld]
      exact hfree
  | receive source bytes =>
      left
      obtain ⟨-, hpermit⟩ := t.link.receive_sameSending (t.sources source) bytes
      simp only [step] at hfree
      rw [hpermit, hheld, Bool.true_and, Bool.not_eq_false', List.any_eq_true] at hfree
      obtain ⟨report, hmem, hresponse⟩ := hfree
      cases report with
      | error cause => cases hresponse
      | ok p => exact ⟨source, bytes, p, rfl, hmem, of_decide_eq_true hresponse⟩

/-! ## The permit in a run -/

theorem exists_releases {t : Traffic} {events : List Event} (hheld : t.link.permitHeld = true)
    (hfree : (t.run events).link.permitHeld = false) :
    ∃ before e after, events = before ++ e :: after ∧ (t.run before).Releases e := by
  induction events generalizing t with
  | nil => cases hheld.symm.trans hfree
  | cons e rest ih =>
      cases hnext : (t.step e).link.permitHeld with
      | false => exact ⟨[], e, rest, rfl, releases_of_permitHeld hheld hnext⟩
      | true =>
          obtain ⟨before, released, after, rfl, hreleases⟩ := ih hnext hfree
          exact ⟨e :: before, released, after, rfl, hreleases⟩

/--
On every run from empty queues and a free permit: a held permit belongs to an exchange; the first
writes of two low-priority packets have an event between them that gave the permit back; and a cycle
that waits does so because the response timeout of the exchange in flight has not passed.
-/
theorem single_flight (tuning : Tuning) (events : List Event) :
    (((fresh tuning).run events).link.permitHeld = true →
        ((fresh tuning).run events).link.outstanding.isSome = true) ∧
      (∀ first between second,
        ((fresh tuning).run events).Starts first →
        ((fresh tuning).run (events ++ first :: between)).Starts second →
        ∃ before e after, between = before ++ e :: after ∧
          ((fresh tuning).run (events ++ first :: before)).Releases e) ∧
      ∀ now, (((fresh tuning).run events).link.cycle now).1 = .waiting →
        ((fresh tuning).run events).link.sendHigh = [] ∧
          ((fresh tuning).run events).link.permitHeld = true ∧
          ∃ current, ((fresh tuning).run events).link.outstanding = some current ∧
            now.since current.sentAt <
              ((fresh tuning).run events).link.tuning.responseTimeout := by
  have howned := permitOwned_run tuning events
  generalize hstate : (fresh tuning).run events = t at howned ⊢
  simp only [run_append, hstate]
  refine ⟨howned, ?_, ?_⟩
  · rintro first between second ⟨now, rfl, hfirst⟩ ⟨later, rfl, hsecond⟩
    have hheld : (t.step (.cycle now)).link.permitHeld = true := by
      rw [step, (t.link.turn_cycle now).permitHeld, hfirst, CycleOutcome.permitAfter]
    have hturn := Link.turn_cycle (t.run (.cycle now :: between)).link later
    rw [hsecond] at hturn
    exact exists_releases hheld hturn.free_of_sentLow
  · intro now hwaiting
    have hturn := t.link.turn_cycle now
    rw [hwaiting] at hturn
    generalize (t.link.cycle now).2 = next at hturn
    cases hturn with
    | alone hhigh hheld hout =>
        rw [Link.PermitOwned, hout] at howned
        cases howned hheld
    | waiting current hhigh hheld hout hearly =>
        exact ⟨hhigh, hheld, current, hout, hearly⟩

end Traffic

end Esp3Host
