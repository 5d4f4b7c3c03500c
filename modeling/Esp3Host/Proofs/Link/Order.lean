import Esp3Host.Proofs.Link.Ordinary
import Esp3Host.Proofs.Link.Progress

/-!
# The order of writes

Every cycle writes the oldest urgent packet, if there is one, so a new one is written after as many
cycles as there are urgent packets ahead of it.  Ordinary packets leave their queue in front: those
that were written for the first time and those that still wait are, in this order, the packets that
were sent, without those that have no attempt.  What is written again is the last of those that were
written for the first time.
-/

namespace Esp3Host

def Event.queuedUrgent : Event → List Item
  | .send _ .high p => [⟨p, 1⟩]
  | .send _ .low _ | .receive _ _ | .cycle _ | .lineFails _ => []

/-! ## Urgent packets -/

namespace Traffic

variable {t : Traffic}

theorem sendHigh_step {e : Event} (h : e.isCycle = false) :
    (t.step e).link.sendHigh = t.link.sendHigh ++ e.queuedUrgent := by
  cases e with
  | send attempts priority p =>
      rw [step, Link.sendWith_eq]
      cases priority <;> rfl
  | receive source bytes =>
      obtain ⟨hsame, -⟩ := t.link.receive_sameSending (t.sources source) bytes
      exact hsame.sendHigh.trans (List.append_nil _).symm
  | lineFails failing => exact (List.append_nil _).symm
  | cycle now => cases h

theorem urgent_cycle {item : Item} {rest : List Item} (h : t.link.sendHigh = item :: rest)
    (now : Instant) :
    t.reply (.cycle now) = .turned .sentHigh ∧
      (t.writes (.cycle now)).map Write.packet = [item.packet] ∧
      (t.step (.cycle now)).link.sendHigh = rest := by
  have hcycle : t.link.cycle now = (.sentHigh, { t.link with sendHigh := rest }.writeHigh item) := by
    simp [Link.cycle, h]
  refine ⟨?reply, ?writes, ?step⟩
  case reply => rw [reply, hcycle]
  case writes => simp [writes, hcycle, CycleOutcome.packets, h]
  case step => rw [step, hcycle, Link.writeHigh_eq]

theorem writes_of_not_cycle {e : Event} (h : e.isCycle = false) : t.writes e = [] := by
  cases e with
  | cycle now => cases h
  | send | receive | lineFails => rfl

theorem urgent_run (events : List Event)
    (h : events.countP Event.isCycle ≤ t.link.sendHigh.length) :
    (t.written events).map Write.packet =
        (t.link.sendHigh.take (events.countP Event.isCycle)).map Item.packet ∧
      (t.run events).link.sendHigh =
        t.link.sendHigh.drop (events.countP Event.isCycle) ++
          events.flatMap Event.queuedUrgent := by
  induction events generalizing t with
  | nil => simp [written, trace, run]
  | cons e rest ih =>
      rw [List.countP_cons] at h
      rw [written_cons, List.map_append, List.flatMap_cons, List.countP_cons]
      cases hcycle : e.isCycle with
      | false =>
          -- the queue only grows behind, where these cycles do not reach
          have hqueue := sendHigh_step (t := t) hcycle
          simp only [hcycle, Bool.false_eq_true, if_false, Nat.add_zero] at h ⊢
          obtain ⟨hwritten, hend⟩ := ih (t := t.step e) (by rw [hqueue, List.length_append]; omega)
          rw [hqueue] at hwritten hend
          rw [List.take_append_of_le_length h] at hwritten
          rw [List.drop_append_of_le_length h, List.append_assoc] at hend
          rw [writes_of_not_cycle hcycle]
          exact ⟨hwritten, hend⟩
      | true =>
          obtain ⟨now, rfl⟩ := Event.exists_cycle hcycle
          simp only [hcycle, if_true] at h ⊢
          obtain ⟨item, behind, hhigh⟩ :=
            List.exists_cons_of_length_pos (Nat.lt_of_lt_of_le (Nat.succ_pos _) h)
          obtain ⟨-, hwrites, hqueue⟩ := urgent_cycle hhigh now
          rw [hhigh, List.length_cons] at h
          obtain ⟨hwritten, hend⟩ := ih (t := t.step (.cycle now)) (by rw [hqueue]; omega)
          rw [hqueue] at hwritten hend
          rw [hwrites, hhigh, hwritten]
          exact ⟨rfl, hend⟩

theorem urgent_after {attempts : Nat} {p : Packet} {later : List Event}
    (h : later.countP Event.isCycle = t.link.sendHigh.length) (now : Instant) :
    let s := t.step (.send attempts .high p)
    (s.written later).map Write.packet = t.link.sendHigh.map Item.packet ∧
      (s.run later).reply (.cycle now) = .turned .sentHigh ∧
      ((s.run later).writes (.cycle now)).map Write.packet = [p] ∧
      ((s.run later).step (.cycle now)).link.sendHigh = later.flatMap Event.queuedUrgent := by
  intro s
  have hqueue : s.link.sendHigh = t.link.sendHigh ++ [⟨p, 1⟩] :=
    sendHigh_step (e := .send attempts .high p) rfl
  have henough : later.countP Event.isCycle ≤ s.link.sendHigh.length := by
    rw [h, hqueue, List.length_append]
    omega
  obtain ⟨hwritten, hend⟩ := urgent_run later henough
  rw [hqueue, h, List.take_left] at hwritten
  rw [hqueue, h, List.drop_left] at hend
  obtain ⟨hreply, hwrites, hleft⟩ := urgent_cycle hend now
  exact ⟨hwritten, hreply, hwrites, hleft⟩

end Traffic

/-! ## Ordinary packets -/

def admitted (items : List Item) : List Packet :=
  (items.filter (0 < ·.attemptsLeft)).map Item.packet

theorem admitted_append (first second : List Item) :
    admitted (first ++ second) = admitted first ++ admitted second := by
  simp [admitted]

theorem admitted_of_spent {items : List Item} (h : ∀ item ∈ items, item.attemptsLeft = 0) :
    admitted items = [] := by
  simpa [admitted] using h

theorem CycleOutcome.length_packets_le (outcome : CycleOutcome) (l : Link) :
    (outcome.packets l).length ≤ 1 := by
  cases outcome with
  | idle | waiting | gaveUp => exact Nat.zero_le 1
  | sentHigh | sentLow | retransmitted =>
      rw [packets, Option.length_toList]
      split <;> omega

def CycleOutcome.firstWrites (outcome : CycleOutcome) (l : Link) : List Packet :=
  if outcome = sentLow then outcome.packets l else []

namespace Link

variable {l next : Link} {now : Instant} {outcome : CycleOutcome}

theorem Turn.admitted_eq (hturn : l.Turn now outcome next) :
    admitted l.sendLow = outcome.firstWrites l ++ admitted next.sendLow := by
  cases hturn with
  | urgent item rest =>
      rw [writeHigh_eq]
      rfl
  | alone | waiting | gaveUp => rfl
  | resent current =>
      rw [resend_eq]
      rfl
  | idle hhigh hfree hspent => exact admitted_of_spent hspent
  | started spent item rest hhigh hfree hlow hspent hleft =>
      have hfirst : CycleOutcome.sentLow.firstWrites l = [item.packet] :=
        CycleOutcome.packets_of_spent hlow hspent hleft
      rw [beginExchange_eq, hfirst, hlow, admitted_append, admitted_of_spent hspent]
      simp [admitted, hleft]

/-- The last of these packets is the one in flight. -/
def Recalls (l : Link) (firsts : List Packet) : Prop :=
  ∀ current, l.outstanding = some current → firsts.getLast? = some current.item.packet

theorem Recalls.of_same {firsts : List Packet} (h : l.Recalls firsts)
    (hout : next.outstanding = l.outstanding) : next.Recalls firsts :=
  fun current hcurrent => h current (hout.symm.trans hcurrent)

theorem Turn.recalls {firsts : List Packet} (hturn : l.Turn now outcome next)
    (h : l.Recalls firsts) : next.Recalls (firsts ++ outcome.firstWrites l) := by
  cases hturn with
  | urgent item rest =>
      rw [writeHigh_eq]
      exact (List.append_nil firsts).symm ▸ h
  | alone | waiting => exact (List.append_nil firsts).symm ▸ h
  | gaveUp => exact nofun
  | resent current hhigh hheld hout =>
      rw [resend_eq]
      intro again hagain
      cases hagain
      exact (List.append_nil firsts).symm ▸ h current hout
  | idle =>
      rw [dropAll_eq, collect_eq]
      exact nofun
  | started spent item rest hhigh hfree hlow hspent hleft =>
      have hfirst : CycleOutcome.sentLow.firstWrites l = [item.packet] :=
        CycleOutcome.packets_of_spent hlow hspent hleft
      rw [beginExchange_eq, hfirst]
      intro current hcurrent
      cases hcurrent
      exact List.getLast?_concat

theorem Turn.packets_of_retransmitted {firsts : List Packet}
    (hturn : l.Turn now .retransmitted next) (h : l.Recalls firsts) :
    ∃ p, firsts.getLast? = some p ∧ CycleOutcome.retransmitted.packets l = [p] := by
  cases hturn with
  | resent current hhigh hheld hout =>
      exact ⟨current.item.packet, h current hout, by simp [CycleOutcome.packets, hout]⟩

end Link

def Occurrence.firstWrites (o : Occurrence) : List Packet :=
  if o.reply = .turned .sentLow then o.writes.map Write.packet else []

namespace Traffic

variable {t : Traffic}

def firstWrites (t : Traffic) (events : List Event) : List Packet :=
  (t.trace events).flatMap Occurrence.firstWrites

theorem firstWrites_cons (t : Traffic) (e : Event) (rest : List Event) :
    t.firstWrites (e :: rest) =
      (t.occur e).firstWrites ++ (t.step e).firstWrites rest := by
  simp [firstWrites, trace]

theorem firstWrites_occur_cycle (t : Traffic) (now : Instant) :
    (t.occur (.cycle now)).firstWrites = (t.link.cycle now).1.firstWrites t.link := by
  simp [Occurrence.firstWrites, occur, reply, writes, CycleOutcome.firstWrites, Function.comp_def]

theorem firstWrites_occur {e : Event} (h : e.isCycle = false) :
    (t.occur e).firstWrites = [] := by
  simp [Occurrence.firstWrites, occur, writes_of_not_cycle h]

theorem admitted_step (t : Traffic) (e : Event) :
    admitted (t.link.sendLow ++ e.queued) =
      (t.occur e).firstWrites ++ admitted (t.step e).link.sendLow := by
  cases hcycle : e.isCycle with
  | false => rw [firstWrites_occur hcycle, (ordinary_step hcycle).1, List.nil_append]
  | true =>
      obtain ⟨now, rfl⟩ := Event.exists_cycle hcycle
      rw [firstWrites_occur_cycle, Event.queued, List.append_nil]
      exact (t.link.turn_cycle now).admitted_eq

theorem admitted_run (t : Traffic) (events : List Event) :
    admitted (t.link.sendLow ++ events.flatMap Event.queued) =
      t.firstWrites events ++ admitted (t.run events).link.sendLow := by
  induction events generalizing t with
  | nil => simp [firstWrites, trace, run]
  | cons e rest ih =>
      rw [List.flatMap_cons, ← List.append_assoc, admitted_append, admitted_step,
        firstWrites_cons, List.append_assoc, List.append_assoc, ← admitted_append, ih]
      rfl

theorem recalls_step {firsts : List Packet} (h : t.link.Recalls firsts) (e : Event) :
    (t.step e).link.Recalls (firsts ++ (t.occur e).firstWrites) := by
  cases hcycle : e.isCycle with
  | false =>
      rw [firstWrites_occur hcycle, List.append_nil]
      exact h.of_same (ordinary_step hcycle).2
  | true =>
      obtain ⟨now, rfl⟩ := Event.exists_cycle hcycle
      rw [firstWrites_occur_cycle]
      exact (t.link.turn_cycle now).recalls h

theorem recalls_run {firsts : List Packet} (h : t.link.Recalls firsts) (events : List Event) :
    (t.run events).link.Recalls (firsts ++ t.firstWrites events) := by
  induction events generalizing t firsts with
  | nil => simpa [firstWrites, trace, run] using h
  | cons e rest ih =>
      rw [firstWrites_cons, ← List.append_assoc]
      exact ih (recalls_step h e)

theorem length_writes_le (t : Traffic) (e : Event) : (t.writes e).length ≤ 1 := by
  cases hcycle : e.isCycle with
  | false => simp [writes_of_not_cycle hcycle]
  | true =>
      obtain ⟨now, rfl⟩ := Event.exists_cycle hcycle
      rw [writes, List.length_map]
      exact CycleOutcome.length_packets_le _ _

theorem handed_eq_writes (t : Traffic) (e : Event) :
    t.handed e = (t.writes e).map (·.packet.encode) := by
  rw [(t.orderly e).frames]
  cases e with
  | send | receive | lineFails => rfl
  | cycle now =>
      have hframes := (t.link.turn_cycle now).frames_eq
      simp only [writes, List.map_map, Function.comp_def]
      exact hframes

/--
Every event writes one frame at most.  An urgent packet is written by the cycle that follows as many
others as there were urgent packets ahead of it, which those others have written.  The ordinary
packets that were sent with an attempt are those that were written for the first time and those that
wait, in this order, and a packet that is written again is the last of the former.
-/
theorem sending_order (tuning : Tuning) (events : List Event) :
    let t := (fresh tuning).run events
    let firsts := (fresh tuning).firstWrites events
    (∀ e, (t.writes e).length ≤ 1 ∧ t.handed e = (t.writes e).map (·.packet.encode)) ∧
      (∀ attempts p later now, later.countP Event.isCycle = t.link.sendHigh.length →
        let s := t.step (.send attempts .high p)
        (s.written later).map Write.packet = t.link.sendHigh.map Item.packet ∧
          (s.run later).reply (.cycle now) = .turned .sentHigh ∧
          ((s.run later).writes (.cycle now)).map Write.packet = [p] ∧
          ((s.run later).step (.cycle now)).link.sendHigh =
            later.flatMap Event.queuedUrgent) ∧
      admitted (events.flatMap Event.queued) = firsts ++ admitted t.link.sendLow ∧
      ∀ now, t.reply (.cycle now) = .turned .retransmitted →
        ∃ p, firsts.getLast? = some p ∧ (t.writes (.cycle now)).map Write.packet = [p] := by
  intro t firsts
  refine ⟨fun e => ⟨length_writes_le t e, handed_eq_writes t e⟩, ?urgent, ?first, ?again⟩
  case urgent => exact fun attempts p later now hcount => urgent_after hcount now
  case first => exact admitted_run (fresh tuning) events
  case again =>
    intro now hreply
    have hrecalls : t.link.Recalls ([] ++ firsts) := recalls_run (t := fresh tuning) nofun events
    have hturn := t.link.turn_cycle now
    rw [Reply.turned.inj hreply] at hturn
    obtain ⟨p, hlast, hpackets⟩ := hturn.packets_of_retransmitted hrecalls
    refine ⟨p, hlast, ?_⟩
    rw [writes, Reply.turned.inj hreply, hpackets]
    rfl

end Traffic

end Esp3Host
