import Esp3Host.Host
import Esp3Host.Proofs.Link.Progress
import Esp3Host.Proofs.Link.SingleFlight

/-!
# The budget of a packet

A packet takes its budget with it: each write uses up one attempt, and what is left and what was
written always add up to it.  So the budget bounds the writes from above, a packet that is given up
has used all of it, and one with any budget at all comes to be written.
-/

namespace Esp3Host

variable {p : Packet} {n count : Nat} {l : Link} {s : Passage} {deeds : List Deed}

namespace Link

theorem Turn.deliveryFailures_of_gaveUp {next : Link} {now : Instant}
    (hturn : l.Turn now .gaveUp next) :
    next.counters.deliveryFailures = l.counters.deliveryFailures + 1 := by
  cases hturn with
  | gaveUp current => rw [giveUp_eq]

theorem Turn.tuning_eq {next : Link} {now : Instant} {outcome : CycleOutcome}
    (hturn : l.Turn now outcome next) : next.tuning = l.tuning := by
  rw [hturn.next_eq]

end Link

/-! ## The writes -/

namespace Written

theorem pos (h : Written p count deeds) : 1 ≤ count := by
  cases h with
  | first => exact Nat.le_refl _
  | again => exact Nat.le_add_left _ _

theorem writes_eq (h : Written p count deeds) :
    deeds.filterMap Deed.write? =
      (.sentLow, p.encode) :: List.replicate (count - 1) (.retransmitted, p.encode) := by
  induction h with
  | first now => rfl
  | again h now ih =>
      rw [List.filterMap_append, ih, Nat.add_sub_cancel]
      obtain ⟨resends, hresends⟩ := Nat.exists_eq_add_of_le' h.pos
      rw [hresends, Nat.add_sub_cancel, List.replicate_succ']
      rfl

theorem isSome_write? (h : Written p count deeds) {deed : Deed} (hdeed : deed ∈ deeds) :
    deed.write?.isSome = true := by
  induction h with
  | first now =>
      cases List.mem_singleton.mp hdeed
      rfl
  | again h now ih =>
      rcases List.mem_append.mp hdeed with hearlier | hlast
      · exact ih hearlier
      · cases List.mem_singleton.mp hlast
        rfl

end Written

namespace Passage

/-- What holds of a packet with a budget at any time. -/
structure WithinBudget (s : Passage) (l : Link) (n : Nat) (p : Packet) : Prop where
  atMost : s.writes.length ≤ n
  writes : ∀ first again, s.writes = first :: again →
    first = (.sentLow, p.encode) ∧ ∀ write ∈ again, write = (.retransmitted, p.encode)
  inFlight : s.place = .outstanding →
    ∃ left sentAt, l.outstanding = some ⟨⟨p, left⟩, sentAt⟩ ∧ left + s.writes.length = n
  givenUp : ∀ now, .givenUp now ∈ s.deeds → s.place = .gone ∧ s.writes.length = n
  notDropped : .dropped ∉ s.deeds
  unwritten : s.writes = [] →
    ∃ ahead, s.place = .queued ahead ∧ l.sendLow[ahead]? = some ⟨p, n⟩

theorem WithinBudget.of_written {ending : List Deed} (hwritten : Written p count deeds)
    (hle : count ≤ n) (hdeeds : s.deeds = deeds ++ ending)
    (hending : ∀ deed ∈ ending, deed.write? = none ∧ deed ≠ .dropped)
    (hplace : s.place = .outstanding → ∃ left sentAt,
      l.outstanding = some ⟨⟨p, left⟩, sentAt⟩ ∧ left + count = n)
    (hgivenUp : ∀ now, .givenUp now ∈ ending → s.place = .gone ∧ count = n) :
    s.WithinBudget l n p := by
  have hnone : ending.filterMap Deed.write? = [] :=
    List.filterMap_eq_nil_iff.mpr fun deed hdeed => (hending deed hdeed).1
  have hwrites : s.writes =
      (.sentLow, p.encode) :: List.replicate (count - 1) (.retransmitted, p.encode) := by
    rw [Passage.writes, hdeeds, List.filterMap_append, hnone, List.append_nil, hwritten.writes_eq]
  have hlength : s.writes.length = count := by
    rw [hwrites, List.length_cons, List.length_replicate, Nat.sub_add_cancel hwritten.pos]
  have hbehind : ∀ deed ∈ s.deeds, deed.write? = none → deed ∈ ending := by
    intro deed hdeed hnowrite
    rw [hdeeds] at hdeed
    rcases List.mem_append.mp hdeed with hwrite | hend
    · have hsome := hwritten.isSome_write? hwrite
      rw [hnowrite] at hsome
      cases hsome
    · exact hend
  constructor
  case atMost => omega
  case writes =>
    intro first again h
    cases hwrites.symm.trans h
    exact ⟨rfl, fun write hwrite => List.eq_of_mem_replicate hwrite⟩
  case inFlight =>
    rw [hlength]
    exact hplace
  case givenUp =>
    intro now hnow
    rw [hlength]
    exact hgivenUp now (hbehind _ hnow rfl)
  case notDropped =>
    intro hdropped
    exact (hending _ (hbehind _ hdropped rfl)).2 rfl
  case unwritten =>
    intro hnothing
    cases hwrites.symm.trans hnothing

theorem Stands.withinBudget (h : s.Stands p n l) : s.WithinBudget l n p := by
  cases h with
  | queued h => exact ⟨Nat.zero_le _, nofun, nofun, nofun, nofun, fun _ => ⟨_, rfl, h⟩⟩
  | inFlight h hsum hout =>
      exact .of_written h (by omega) (List.append_nil _).symm nofun (fun _ => ⟨_, _, hout, hsum⟩)
        nofun
  | answered h hsum hout =>
      exact .of_written h (by omega) rfl (by simp [Deed.write?]) (fun _ => ⟨_, _, hout, hsum⟩)
        (by simp)
  | putAway h hle => exact .of_written h hle rfl (by simp [Deed.write?]) nofun (by simp)
  | givenUp h now =>
      exact .of_written h (Nat.le_refl n) rfl (by simp [Deed.write?]) nofun fun _ _ => ⟨rfl, rfl⟩

/-! ## The end of a passage -/

theorem Stands.exists_written_of_answered (h : s.Stands p n l) (hanswered : .answered ∈ s.deeds) :
    ∃ count deeds, Written p count deeds ∧ s.deeds = deeds ++ [.answered] := by
  cases h with
  | queued => cases hanswered
  | inFlight h => cases h.isSome_write? hanswered
  | answered h | putAway h => exact ⟨_, _, h, rfl⟩
  | givenUp h now =>
      rcases List.mem_append.mp hanswered with hwrite | hend
      · cases h.isSome_write? hwrite
      · cases List.mem_singleton.mp hend

theorem Stands.deeds_eq_of_answered {later : Passage} {next : Link} (h : s.Stands p n l)
    (hlater : later.Stands p n next) (hanswered : .answered ∈ s.deeds)
    (hgrown : s.deeds <+: later.deeds) : later.deeds = s.deeds := by
  obtain ⟨_, first, -, hs⟩ := h.exists_written_of_answered hanswered
  obtain ⟨_, all, hall, hend⟩ := hlater.exists_written_of_answered (hgrown.subset hanswered)
  rw [hend, List.prefix_concat_iff] at hgrown
  rcases hgrown with hsame | hshorter
  · rw [hend, hsame]
  · cases hall.isSome_write? (hshorter.subset hanswered)

theorem gaveUp_of_after {t : Traffic} {e : Event} {now : Instant}
    (h : .givenUp now ∈ (s.after t e).deeds) (hbefore : .givenUp now ∉ s.deeds) :
    e = .cycle now ∧ (t.link.cycle now).1 = .gaveUp ∧
      (t.step e).link.counters.deliveryFailures =
        t.link.counters.deliveryFailures + 1 := by
  cases e with
  | send | lineFails => cases hbefore h
  | receive source bytes =>
      simp only [after] at h
      split at h <;> simp [hbefore] at h
  | cycle time =>
      simp only [after, turn] at h
      split at h
      · split at h
        · cases hbefore h
        · split at h <;> simp [hbefore] at h
      · split at h
        case h_2 houtcome =>
          obtain rfl : now = time := by simpa [hbefore] using h
          have hturn := t.link.turn_cycle now
          rw [houtcome] at hturn
          exact ⟨rfl, houtcome, hturn.deliveryFailures_of_gaveUp⟩
        all_goals simp [hbefore] at h
      · cases hbefore h

end Passage

/-! ## The budget on every run -/

namespace Traffic

theorem writes_ne_nil_of_busyCycles (t : Traffic) (hn : 1 ≤ n) (p : Packet) {events : List Event}
    (hbusy : (t.queue n p).link.workAhead t.link.sendLow.length + (events.map Event.urgent).sum <
      (t.queue n p).busyCycles events) : (t.passage n p events).writes ≠ [] := by
  intro hnothing
  obtain ⟨later, hlater, -⟩ := (t.stands_passage hn p events).withinBudget.unwritten hnothing
  have hahead := Passage.workAhead_follow hn (.queued (t.getElem?_queue n p)) rfl hlater
  omega

theorem tuning_step (t : Traffic) (e : Event) : (t.step e).link.tuning = t.link.tuning := by
  cases e with
  | send attempts priority p => rw [step, Link.sendWith_eq]
  | receive source bytes =>
      exact (t.link.receive_sameSending (t.sources source) bytes).1.tuning
  | lineFails failing => rfl
  | cycle now => exact (t.link.turn_cycle now).tuning_eq

theorem tuning_run (t : Traffic) (events : List Event) :
    (t.run events).link.tuning = t.link.tuning :=
  run_induction (P := fun later => later.link.tuning = t.link.tuning)
    (fun later e h => (tuning_step later e).trans h) t events rfl

def started (tuning : Tuning) : Traffic := ⟨Link.start tuning, fun _ => {}⟩

theorem send_of_started (tuning : Tuning) (events : List Event) (p : Packet) :
    ((started tuning).run events).link.send .low p =
      (((started tuning).run events).queue (max tuning.attempts 1) p).link := by
  rw [Link.send, tuning_run, queue, step, Nat.max_comm]
  rfl

theorem early_of_waiting (tuning : Tuning) (events : List Event) {now : Instant}
    (hwaiting : (((started tuning).run events).link.cycle now).1 = .waiting) :
    ∃ current, ((started tuning).run events).link.outstanding = some current ∧
      now.since current.sentAt < tuning.responseTimeout := by
  have howned : ((started tuning).run events).link.PermitOwned :=
    permitOwned_run { tuning with attempts := max 1 tuning.attempts } events
  have htuning := congrArg Tuning.responseTimeout ((started tuning).tuning_run events)
  have hturn := ((started tuning).run events).link.turn_cycle now
  generalize ((started tuning).run events).link = l at *
  generalize (l.cycle now).2 = next at hturn
  rw [hwaiting] at hturn
  cases hturn with
  | alone hhigh hheld hout =>
      rw [Link.PermitOwned, hout] at howned
      cases howned hheld
  | waiting current hhigh hheld hout hearly =>
      rw [htuning] at hearly
      exact ⟨current, hout, hearly⟩

/--
A sender queues a low-priority packet with a budget on a link that was started and ran, and the run
goes on.  The packet is within its budget; packets keep their order and only what is urgent or in
flight is written; giving the packet up counts one failure; once it was answered it is not written
again; and it is written when more cycles did something than the packets ahead of it and the urgent
ones took, where a cycle waits for a response timeout only.  The link's own sender gives every
packet at least one attempt.
-/
theorem attempt_budget (tuning : Tuning) (before : List Event) (hn : 1 ≤ n) (p : Packet)
    (events : List Event) :
    let t := (started tuning).run before
    let later := (t.queue n p).run events
    let s := t.passage n p events
    s.WithinBudget later.link n p ∧
      (∀ e, later.Orderly e) ∧
      (∀ e now, .givenUp now ∈ (s.after later e).deeds → .givenUp now ∉ s.deeds →
        e = .cycle now ∧ (later.link.cycle now).1 = .gaveUp ∧
          (later.step e).link.counters.deliveryFailures =
            later.link.counters.deliveryFailures + 1) ∧
      (.answered ∈ s.deeds → ∀ more, (t.passage n p (events ++ more)).writes = s.writes) ∧
      ((t.queue n p).link.workAhead t.link.sendLow.length + (events.map Event.urgent).sum <
        (t.queue n p).busyCycles events → s.writes ≠ []) ∧
      (∀ now, (later.link.cycle now).1 = .waiting →
        ∃ current, later.link.outstanding = some current ∧
          now.since current.sentAt < tuning.responseTimeout) ∧
      t.link.send .low p = (t.queue (max tuning.attempts 1) p).link := by
  intro t later s
  have hstands : s.Stands p n later.link := t.stands_passage hn p events
  refine ⟨hstands.withinBudget, later.orderly, fun e now => Passage.gaveUp_of_after, ?_,
    t.writes_ne_nil_of_busyCycles hn p, ?_, send_of_started tuning before p⟩
  · intro hanswered more
    have hgrown : s.deeds <+: (t.passage n p (events ++ more)).deeds := by
      rw [passage, follow_append]
      exact deeds_follow later s more
    have hend := t.stands_passage hn p (events ++ more)
    rw [Passage.writes, hstands.deeds_eq_of_answered hend hanswered hgrown]
    rfl
  · have hlater : later = (started tuning).run (before ++ .send n .low p :: events) := by
      rw [run_append]
      rfl
    intro now hwaiting
    rw [hlater] at hwaiting ⊢
    exact early_of_waiting tuning _ hwaiting

theorem attempt_budget_given_up :
    let p := Packet.sealed .commonCommand [0x03] []
    let t := started {}
    let events : List Event := [.cycle 0, .cycle 500000000, .cycle 1000000000]
    let s := t.passage 2 p events
    s.WithinBudget ((t.queue 2 p).run events).link 2 p ∧
      s.deeds = [.written .sentLow 0 p.encode, .written .retransmitted 500000000 p.encode,
        .givenUp 1000000000] ∧
      s.writes ≠ [] := by
  intro p t events s
  obtain ⟨hwithin, -, -, -, hwritten, -⟩ := attempt_budget {} [] (by decide : 1 ≤ 2) p events
  exact ⟨hwithin, rfl, hwritten (by decide)⟩

end Traffic

end Esp3Host
