import Mathlib.Data.List.Chain
import Esp3Host.Proofs.Link.Budget
import Esp3Host.Proofs.Link.StopAndWait
import Esp3Host.Proofs.Link.Trace

/-!
# Coming to rest

The load of a link is the number of cycles that what it has to send can take: one for an urgent
packet, and one more than its attempts for any other.  Only senders add to it, and every cycle that
writes or gives up takes something away.  Cycles that are spaced by the response timeout find
nothing to wait for, so each of them takes something away until nothing is left.
-/

namespace Esp3Host

def Item.load (item : Item) : Nat := item.attemptsLeft + 1

/-- How many cycles can write or give up, if nothing more is sent. -/
def Link.load (l : Link) : Nat :=
  l.sendHigh.length + (l.sendLow.map Item.load).sum +
    (l.outstanding.map fun current => current.item.load).getD 0

def Event.load : Event → Nat
  | .send _ .high _ => 1
  | .send attempts .low p => Item.load ⟨p, attempts⟩
  | .receive _ _ | .cycle _ | .lineFails _ => 0

def Event.isSend : Event → Bool
  | .send _ _ _ => true
  | .receive _ _ | .cycle _ | .lineFails _ => false

def Event.time? : Event → Option Instant
  | .cycle now => some now
  | .send _ _ _ | .receive _ _ | .lineFails _ => none

def CycleOutcome.isActive : CycleOutcome → Bool
  | sentHigh | sentLow | retransmitted | gaveUp => true
  | idle | waiting => false

def Reply.isActive : Reply → Bool
  | .turned outcome => outcome.isActive
  | .done | .queued _ => false

/-! ## The load in one cycle -/

namespace Link

variable {l next : Link} {now : Instant} {outcome : CycleOutcome}

theorem Turn.load_le (hturn : l.Turn now outcome next) :
    next.load + (if outcome.isActive then 1 else 0) ≤ l.load := by
  cases hturn with
  | urgent item rest hhigh =>
      rw [writeHigh_eq]
      simp only [load, hhigh, List.length_cons, CycleOutcome.isActive, if_true]
      omega
  | alone | waiting => exact Nat.le_refl _
  | resent current hhigh hheld hout hlate hleft =>
      rw [resend_eq]
      simp only [load, hout, Option.map_some, Option.getD_some, Item.load, CycleOutcome.isActive,
        if_true]
      omega
  | gaveUp current hhigh hheld hout =>
      rw [giveUp_eq]
      simp [load, hout, Item.load, CycleOutcome.isActive]
  | idle hhigh =>
      rw [dropAll_eq, collect_eq]
      simp [load, hhigh, CycleOutcome.isActive]
  | started spent item rest hhigh hfree hlow hspent hleft =>
      rw [beginExchange_eq, dropAll_eq, collect_eq]
      simp only [load, hhigh, hlow, List.length_nil, List.map_append, List.map_cons,
        List.sum_append, List.sum_cons, Option.map_some, Option.getD_some, Item.load,
        CycleOutcome.isActive, if_true]
      omega

theorem AtRest.load_eq (h : l.AtRest) : l.load = 0 := by
  simp [load, h.sendHigh, h.sendLow, h.outstanding]

theorem Turn.atRest (hturn : l.Turn now .idle next) : next.AtRest := by
  cases hturn with
  | idle hhigh hfree =>
      rw [dropAll_eq, collect_eq]
      exact ⟨hhigh, rfl, hfree, rfl⟩

theorem Turn.idle_of_load (hturn : l.Turn now outcome next) (howned : l.PermitOwned)
    (hload : l.load = 0) : outcome = .idle := by
  have hle := hturn.load_le
  cases hturn with
  | idle => rfl
  | urgent | resent | gaveUp | started => simp [hload, CycleOutcome.isActive] at hle
  | alone hhigh hheld hout =>
      have hsome := howned hheld
      simp [hout] at hsome
  | waiting current hhigh hheld hout => simp [load, hout, Item.load] at hload

def Overdue (l : Link) (now : Instant) : Prop :=
  ∀ current, l.outstanding = some current →
    current.sentAt.after l.tuning.responseTimeout ≤ now

theorem Turn.load_lt (hturn : l.Turn now outcome next) (howned : l.PermitOwned)
    (hdue : l.Overdue now) : next.load ≤ l.load - 1 := by
  have hle := hturn.load_le
  cases houtcome : outcome with
  | sentHigh | sentLow | retransmitted | gaveUp =>
      simp [houtcome, CycleOutcome.isActive] at hle
      omega
  | idle =>
      subst houtcome
      simp [hturn.atRest.load_eq]
  | waiting =>
      subst houtcome
      cases hturn with
      | alone hhigh hheld hout =>
          have hsome := howned hheld
          simp [hout] at hsome
      | waiting current hhigh hheld hout hearly =>
          exact absurd hearly (Nat.not_lt.mpr (Instant.le_since (hdue current hout)))

theorem Turn.sentAt_le (hturn : l.Turn now outcome next) (hdue : l.Overdue now)
    {current : Exchange} (hout : next.outstanding = some current) : current.sentAt ≤ now := by
  have hsame (h : l.outstanding = some current) : current.sentAt ≤ now :=
    Int.le_trans (Instant.le_after _ _) (hdue current h)
  cases hturn with
  | urgent item rest =>
      rw [writeHigh_eq] at hout
      exact hsame hout
  | alone | waiting => exact hsame hout
  | gaveUp => cases hout
  | resent sent =>
      rw [resend_eq] at hout
      cases hout
      exact Int.le_refl now
  | idle =>
      rw [dropAll_eq, collect_eq] at hout
      cases hout
  | started spent item rest =>
      rw [beginExchange_eq] at hout
      cases hout
      exact Int.le_refl now

end Link

namespace Traffic

variable {t : Traffic}

/-! ## The load in a run -/

theorem load_step (t : Traffic) (e : Event) :
    (t.step e).link.load + (if (t.reply e).isActive then 1 else 0) ≤ t.link.load + e.load := by
  cases e with
  | send attempts priority p =>
      rw [step, Link.sendWith_eq]
      cases priority <;> simp [Link.load, Event.load, reply, Reply.isActive] <;> omega
  | receive source bytes =>
      obtain ⟨hsame, -⟩ := t.link.receive_sameSending (t.sources source) bytes
      simp [step, Link.load, hsame.sendHigh, hsame.sendLow, hsame.outstanding, reply,
        Reply.isActive]
  | lineFails failing => exact Nat.le_add_right _ _
  | cycle now => exact (t.link.turn_cycle now).load_le

theorem load_run (t : Traffic) (events : List Event) :
    (t.run events).link.load + (t.trace events).countP (·.reply.isActive) ≤
      t.link.load + (events.map Event.load).sum := by
  induction events generalizing t with
  | nil => exact Nat.le_refl _
  | cons e rest ih =>
      have hone := t.load_step e
      have hrest := ih (t.step e)
      simp only [run, List.foldl_cons, trace, List.countP_cons, occur, List.map_cons,
        List.sum_cons] at hrest ⊢
      omega

/-! ## Rest -/

/--
The cycles of a run are the response timeout apart, and the first one is that long after the last
write of the exchange in flight.
-/
def Paced (t : Traffic) (events : List Event) : Prop :=
  ((t.link.outstanding.map Exchange.sentAt).toList ++ events.filterMap Event.time?).IsChain
    fun earlier later => earlier.after t.link.tuning.responseTimeout ≤ later

instance (t : Traffic) (events : List Event) : Decidable (t.Paced events) :=
  inferInstanceAs (Decidable (List.IsChain _ _))

theorem Paced.overdue {now : Instant} {rest : List Event} (h : t.Paced (.cycle now :: rest)) :
    t.link.Overdue now := by
  intro current hout
  simp only [Paced, hout, Option.map_some, Option.toList_some, List.singleton_append,
    List.filterMap_cons, Event.time?, List.isChain_cons_cons] at h
  exact h.1

theorem Paced.step {e : Event} {rest : List Event} (h : t.Paced (e :: rest)) :
    (t.step e).Paced rest := by
  cases hcycle : e.isCycle with
  | false =>
      have htime : e.time? = none := by
        cases e with
        | cycle now => cases hcycle
        | send | receive | lineFails => rfl
      rw [Paced, (ordinary_step hcycle).2, tuning_step]
      rwa [Paced, List.filterMap_cons_none htime] at h
  | true =>
      obtain ⟨now, rfl⟩ := Event.exists_cycle hcycle
      -- what is in flight after the cycle was written by then
      have hsent (current : Exchange)
          (hout : (t.step (.cycle now)).link.outstanding = some current) : current.sentAt ≤ now :=
        (t.link.turn_cycle now).sentAt_le h.overdue hout
      have hrest : (now :: rest.filterMap Event.time?).IsChain fun earlier later =>
          earlier.after t.link.tuning.responseTimeout ≤ later :=
        (List.isChain_append.mp h).2.1
      rw [Paced, tuning_step]
      cases hout : (t.step (.cycle now)).link.outstanding with
      | none => exact hrest.tail
      | some current =>
          rw [List.isChain_cons] at hrest
          refine List.isChain_cons.mpr ⟨fun later hlater => ?_, hrest.2⟩
          exact Int.le_trans (Instant.after_le_after (hsent current hout) (Nat.le_refl _))
            (hrest.1 later hlater)

theorem load_run_of_paced {events : List Event} (howned : t.link.PermitOwned)
    (hnothing : ∀ e ∈ events, e.isSend = false) (hpaced : t.Paced events) :
    (t.run events).link.load ≤ t.link.load - events.countP Event.isCycle := by
  induction events generalizing t with
  | nil => exact Nat.le_refl _
  | cons e rest ih =>
      have hrest := ih (t.permitOwned_step e howned)
        (fun later hmem => hnothing later (List.mem_cons_of_mem e hmem)) hpaced.step
      have hstep := t.load_step e
      simp only [run, List.foldl_cons, List.countP_cons] at hrest ⊢
      cases e with
      | send => simp [Event.isSend] at hnothing
      | receive | lineFails =>
          simp [Event.load, Event.isCycle] at hstep ⊢
          omega
      | cycle now =>
          have hless : (t.step (.cycle now)).link.load ≤ t.link.load - 1 :=
            (t.link.turn_cycle now).load_lt howned hpaced.overdue
          simp only [Event.isCycle, if_true]
          omega

/--
On every run from empty queues and a free permit: no event adds more to the load than what it sends,
and a cycle that writes or gives up takes something away; so in whatever follows there are as many
such cycles at most as the load was and as sends add to it.  If nothing is sent, and as many cycles
as the load was are spaced by the response timeout, then the next one ends idle, and all that there
was to send has been sent, whatever is received meanwhile.
-/
theorem transmission_ends (tuning : Tuning) (before : List Event) :
    let t := (fresh tuning).run before
    (∀ e, (t.step e).link.load + (if (t.reply e).isActive then 1 else 0) ≤
        t.link.load + e.load) ∧
      (∀ events, (t.trace events).countP (·.reply.isActive) ≤
        t.link.load + (events.map Event.load).sum) ∧
      ∀ events, (∀ e ∈ events, e.isSend = false) → t.Paced events →
        t.link.load ≤ events.countP Event.isCycle → ∀ now,
          (t.run events).reply (.cycle now) = .turned .idle ∧
            ((t.run events).step (.cycle now)).link.AtRest := by
  intro t
  refine ⟨t.load_step, fun events => ?bound, fun events hnothing hpaced hlong now => ?rest⟩
  case bound =>
    have hrun := t.load_run events
    omega
  case rest =>
    have howned : t.link.PermitOwned := permitOwned_run tuning before
    have hload := load_run_of_paced howned hnothing hpaced
    have hend : (t.run events).link.PermitOwned :=
      run_induction permitOwned_step t events howned
    have hturn := (t.run events).link.turn_cycle now
    have hidle : ((t.run events).link.cycle now).1 = .idle := hturn.idle_of_load hend (by omega)
    rw [hidle] at hturn
    exact ⟨congrArg Reply.turned hidle, hturn.atRest⟩

theorem transmission_ends_unanswered :
    let p := Packet.sealed .commonCommand [0x03] []
    let t := (fresh {}).run [.send 2 .low p, .send 0 .low p, .send 1 .high p, .cycle 0, .cycle 5]
    let events : List Event :=
      [.cycle 500000005, .receive 0 [0x55], .cycle 1000000005, .cycle 1600000000]
    t.link.load = 3 ∧ t.Paced events ∧
      (t.run events).reply (.cycle 2100000000) = .turned .idle ∧
      ((t.run events).step (.cycle 2100000000)).link.AtRest := by
  refine ⟨by decide, ?paced, ?rest⟩
  case paced => decide +kernel
  case rest =>
    refine (transmission_ends {} _).2.2 _ (by decide) ?_ (by decide) _
    decide +kernel

end Traffic

end Esp3Host
