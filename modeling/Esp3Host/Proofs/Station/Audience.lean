import Esp3Host.Proofs.Station.Conservation
import Esp3Host.Proofs.Station.Watch

/-!
# The audience of a delivery cycle

A cycle calls those who are registered when it starts, whatever they do about the registrations
meanwhile: first all of them for a tick, then all of them for the packet that was the oldest one at
the start.  Who leaves meanwhile gets this packet and no other call, who joins meanwhile is not
called before the next cycle.
-/

namespace Esp3Host.Station

variable {σ : Type} (reg : TeachIn.Registry σ)

/-! ## What a registration gets -/

def Call.packetFor? (id : Nat) : Call → Option Packet
  | tick _ _ => none
  | frame p entry => if entry.1 = id then some p else none

def packetsFor (id : Nat) (calls : List Call) : List Packet := calls.filterMap (Call.packetFor? id)

theorem id_mem_of_mem_round {now : Instant} {s : Station σ} {c : Call} (h : c ∈ s.round now) :
    c.id ∈ s.listeners.ids := by
  simp only [round, List.mem_append, List.mem_map, List.mem_flatMap] at h
  rcases h with ⟨entry, hmem, rfl⟩ | ⟨p, -, entry, hmem, rfl⟩
  · exact List.mem_map_of_mem hmem
  · exact List.mem_map_of_mem hmem

theorem packetsFor_append (id : Nat) (calls more : List Call) :
    packetsFor id (calls ++ more) = packetsFor id calls ++ packetsFor id more :=
  List.filterMap_append

theorem packetsFor_ticks (id : Nat) (now : Instant) (present : List (Nat × Listener)) :
    packetsFor id (present.map (.tick now)) = [] := by
  simp [packetsFor, Call.packetFor?]

theorem packetsFor_frames (id : Nat) (p : Packet) {present : List (Nat × Listener)}
    (hordered : (present.map Prod.fst).Pairwise (· < ·)) :
    packetsFor id (present.map (.frame p)) = if id ∈ present.map Prod.fst then [p] else [] := by
  induction present with
  | nil => rfl
  | cons entry rest ih =>
      rw [List.map_cons, List.pairwise_cons] at hordered
      obtain ⟨habove, hrest⟩ := hordered
      have hothers := ih hrest
      simp only [packetsFor, List.map_cons, List.mem_cons] at hothers ⊢
      by_cases hsame : entry.1 = id
      · -- The others come later and have greater numbers.
        have hnone : id ∉ rest.map Prod.fst := by
          intro hmem
          exact Nat.lt_irrefl id (hsame ▸ habove id hmem)
        rw [if_neg hnone] at hothers
        have hhead : Call.packetFor? id (.frame p entry) = some p := if_pos hsame
        rw [List.filterMap_cons_some hhead, hothers, if_pos (.inl hsame.symm)]
      · have hhead : Call.packetFor? id (.frame p entry) = none := if_neg hsame
        rw [List.filterMap_cons_none hhead, hothers]
        simp only [Ne.symm hsame, false_or]

theorem packetsFor_round (id : Nat) (now : Instant) {s : Station σ}
    (hnumbered : s.listeners.Numbered) :
    packetsFor id (s.round now) = if id ∈ s.listeners.ids then s.oldest.toList else [] := by
  rw [round, packetsFor_append, packetsFor_ticks, List.nil_append]
  cases s.oldest with
  | none => simp [packetsFor]
  | some p =>
      rw [Option.toList_some, List.flatMap_singleton]
      exact packetsFor_frames id p hnumbered.ordered

theorem id_ne_of_gone {s : Station σ} {acts : List Act} {id : Nat}
    (hgiven : id < s.listeners.next) (hgone : id ∉ s.listeners.ids) {c : Call}
    (h : c ∈ s.callsIn reg acts) : c.id ≠ id := by
  induction acts generalizing s with
  | nil => cases h
  | cons a rest ih =>
      have hchanged := changed_act reg s a
      rw [callsIn_cons, List.mem_append] at h
      rcases h with hnow | hlater
      · cases a with
        | deliver now =>
            rintro rfl
            exact hgone (id_mem_of_mem_round hnow)
        | _ => cases hnow
      · have hstill : id < (s.act reg a).listeners.next :=
          Nat.lt_of_lt_of_le hgiven hchanged.next_le
        exact ih hstill (hchanged.not_mem hgiven hgone) hlater

theorem packetsFor_eq_of_together {a b : Nat} {s : Station σ} {acts : List Act}
    (hnumbered : s.listeners.Numbered)
    (htogether : ∀ before now rest, acts = before ++ .deliver now :: rest →
      (a ∈ (s.run reg before).listeners.ids ↔ b ∈ (s.run reg before).listeners.ids)) :
    packetsFor a (s.callsIn reg acts) = packetsFor b (s.callsIn reg acts) := by
  induction acts generalizing s with
  | nil => rfl
  | cons act rest ih =>
      have hfirst : packetsFor a (act.calls s) = packetsFor b (act.calls s) := by
        cases act with
        | deliver now =>
            have hids : a ∈ s.listeners.ids ↔ b ∈ s.listeners.ids := htogether [] now rest rfl
            simp only [Act.calls, packetsFor_round _ now hnumbered, hids]
        | _ => rfl
      have hrest := ih ((changed_act reg s act).numbered hnumbered) fun before now later heq =>
        htogether (act :: before) now later (by rw [heq, List.cons_append])
      rw [callsIn_cons, packetsFor_append, packetsFor_append, hfirst, hrest]

/-! ## What leaves the queues -/

theorem queues_exit {now : Instant} {s : Station σ} {leaving : List Departure}
    {result : Bool × Station σ} (h : Exit reg now s leaving result)
    (hpresent : s.listeners.entries ≠ []) :
    result.2.link.receivedHigh = s.link.receivedHigh.tail ∧
      result.2.link.receivedLow =
        if s.link.receivedHigh = [] then s.link.receivedLow.tail else s.link.receivedLow := by
  have hticked := inbox_tickAll reg now s
  have hqueues : result.2.link.inbox.urgent = s.link.receivedHigh.tail ∧
      result.2.link.inbox.ordinary =
        if s.link.receivedHigh = [] then s.link.receivedLow.tail else s.link.receivedLow := by
    cases h with
    | dropped hnobody | retained hnobody => exact absurd hnobody hpresent
    | silent _ hhigh hlow =>
        rw [hticked]
        simp [hhigh, hlow, Link.inbox]
    | urgent p rest _ hhigh =>
        rw [inbox_hand, inbox_setLink, inbox_takeUrgent hticked]
        simp [hhigh, Link.inbox]
    | ordinary p rest _ hhigh hlow =>
        rw [inbox_hand, inbox_setLink, inbox_takeOrdinary hticked]
        simp [hhigh, hlow, Link.inbox]
  exact hqueues

theorem packetsFor_sublist_after (id : Nat) {s : Station σ} (hnumbered : s.listeners.Numbered)
    (k : Account) (a : Act) :
    (k.departed.map Departure.packet ++ packetsFor id (a.calls s)).Sublist
      ((k.after s a).departed.map Departure.packet) := by
  cases a with
  | deliver now =>
      change List.Sublist _ ((k.departed ++ s.departures).map Departure.packet)
      rw [List.map_append, Act.calls, packetsFor_round id now hnumbered]
      apply List.Sublist.append_left
      split
      case isFalse => exact List.nil_sublist _
      case isTrue hmem =>
        have hpresent : s.listeners.entries.isEmpty = false := by
          cases hentries : s.listeners.entries with
          | nil => simp [ListenerSet.ids, hentries] at hmem
          | cons => rfl
        simp [departures, hpresent, toList_oldest, Function.comp_def]
  | _ => simp [Act.calls, packetsFor, Account.after]

theorem packetsFor_sublist_account (id : Nat) {s : Station σ} (hnumbered : s.listeners.Numbered)
    (k : Account) (acts : List Act) :
    (k.departed.map Departure.packet ++ packetsFor id (s.callsIn reg acts)).Sublist
      ((s.account reg k acts).departed.map Departure.packet) := by
  induction acts generalizing s k with
  | nil => simp [packetsFor, account]
  | cons a rest ih =>
      rw [callsIn_cons, packetsFor_append, ← List.append_assoc]
      have hnow := packetsFor_sublist_after id hnumbered k a
      have hlater := ih ((changed_act reg s a).numbered hnumbered) (k.after s a)
      exact (hnow.append_right _).trans hlater

/-! ## Rounds -/

/--
Those who are registered when a cycle starts are ticked in the order of registration, and then all
of them get the same packet.
-/
structure Attended (now : Instant) (s : Station σ) : Prop where
  calls : s.callsIn reg [.deliver now] =
    s.listeners.entries.map (.tick now) ++
      s.oldest.toList.flatMap fun p => s.listeners.entries.map (.frame p)
  high : (s.act reg (.deliver now)).link.receivedHigh = s.link.receivedHigh.tail
  low : (s.act reg (.deliver now)).link.receivedLow =
    if s.link.receivedHigh = [] then s.link.receivedLow.tail else s.link.receivedLow
  left : ∀ id ∈ s.listeners.ids, id ∉ (s.act reg (.deliver now)).listeners.ids →
    packetsFor id (s.callsIn reg [.deliver now]) = s.oldest.toList
  gone : ∀ id < (s.act reg (.deliver now)).listeners.next,
    id ∉ (s.act reg (.deliver now)).listeners.ids →
    ∀ later, ∀ c ∈ (s.act reg (.deliver now)).callsIn reg later, c.id ≠ id
  joined : ∀ id ∉ s.listeners.ids, ∀ c ∈ s.callsIn reg [.deliver now], c.id ≠ id
  next : ∀ id ∈ (s.act reg (.deliver now)).listeners.ids, ∀ later,
    packetsFor id ((s.act reg (.deliver now)).callsIn reg [.deliver later]) =
      (s.act reg (.deliver now)).oldest.toList

theorem attended {s : Station σ} (hnumbered : s.listeners.Numbered) (now : Instant)
    (hpresent : s.listeners.entries ≠ []) : Attended reg now s where
  calls := callsIn_deliver reg now s
  high := (queues_exit reg (exit_deliver reg now s) hpresent).1
  low := (queues_exit reg (exit_deliver reg now s) hpresent).2
  left id hmem _ := by rw [callsIn_deliver, packetsFor_round id now hnumbered, if_pos hmem]
  gone id hgiven hgone later c := id_ne_of_gone reg hgiven hgone
  joined id hnew c hcalled := by
    rw [callsIn_deliver] at hcalled
    rintro rfl
    exact hnew (id_mem_of_mem_round hcalled)
  next id hmem later := by
    have hnumbered' := (changed_act reg s (.deliver now)).numbered hnumbered
    rw [callsIn_deliver, packetsFor_round id later hnumbered', if_pos hmem]

theorem numbered_fresh (engine : TeachIn.Engine σ) (tuning : Tuning) (receivers : Nat) :
    (fresh engine tuning {} receivers).listeners.Numbered :=
  ⟨List.Pairwise.nil, fun _ hmem => nomatch hmem⟩

/--
Whatever callbacks do about registrations, a delivery cycle calls those who are registered when it
starts.  Those who are registered in the same cycles get the same packets, and of each class these
are some of the accepted ones in their order, none of them twice.
-/
theorem delivery_rounds (engine : TeachIn.Engine σ) (tuning : Tuning) (receivers : Nat)
    (acts : List Act) :
    let start := fresh engine tuning {} receivers
    let s := start.run reg acts
    -- The calls are those of the station itself, and the ones that are recorded are in its journal.
    (Watched.run reg ⟨start, []⟩ acts).station = s ∧
      s.link.callEntries = (start.callsIn reg acts).flatMap Call.entries ∧
      s.listeners.ids.Pairwise (· < ·) ∧
      (∀ now, s.listeners.entries ≠ [] → Attended reg now s) ∧
      (∀ later a b,
        (∀ before now rest, later = before ++ .deliver now :: rest →
          (a ∈ (s.run reg before).listeners.ids ↔ b ∈ (s.run reg before).listeners.ids)) →
        packetsFor a (s.callsIn reg later) = packetsFor b (s.callsIn reg later)) ∧
      ∀ id c, ((packetsFor id (start.callsIn reg acts)).filter (·.priority = c)).Sublist
        ((start.account reg {} acts).accepted.filter (·.priority = c)) := by
  intro start s
  have hstart : start.listeners.Numbered := numbered_fresh engine tuning receivers
  have hnumbered : s.listeners.Numbered := (changed_run reg start acts).numbered hstart
  have hbalances := balances_account reg (balances_fresh engine tuning {} receivers) acts
  refine ⟨?station, callEntries_run reg start acts, hnumbered.ordered, attended reg hnumbered,
    ?together, ?accepted⟩
  case station => rw [Watched.run_eq]
  case together =>
    intro later a b htogether
    exact packetsFor_eq_of_together reg hnumbered htogether
  case accepted =>
    intro id c
    have hdeparted := packetsFor_sublist_account reg id hstart {} acts
    rw [hbalances.classes c]
    exact (hdeparted.filter _).trans (List.sublist_append_left _ _)

theorem delivery_rounds_second_removed :
    let first := Listener.mk "first" true true
      (fun _ _ => [.unsubscribe 1, .subscribe (.recorder "third" true)]) (fun _ _ => [])
    let acts := [.listen first, .listen (.recorder "second" true)]
    let s := (fresh (σ := DeviceTable) { registry := {} } {} {} 1).run TeachIn.tableRegistry acts
    let after := s.act TeachIn.tableRegistry (.deliver 0)
    s.listeners.entries ≠ [] ∧
      (s.callsIn TeachIn.tableRegistry [.deliver 0]).map Call.id = [0, 1] ∧
      after.listeners.ids = [0, 2] ∧
      (∀ later, ∀ c ∈ after.callsIn TeachIn.tableRegistry later, c.id ≠ 1) ∧
      ∀ c ∈ s.callsIn TeachIn.tableRegistry [.deliver 0], c.id ≠ 2 := by
  intro first acts s after
  have hpresent : s.listeners.entries ≠ [] := List.cons_ne_nil _ _
  have hattended : Attended TeachIn.tableRegistry 0 s :=
    (delivery_rounds TeachIn.tableRegistry { registry := {} } {} 1 acts).2.2.2.1 0 hpresent
  exact ⟨hpresent, rfl, rfl, hattended.gone 1 (by decide) (by decide),
    hattended.joined 2 (by decide)⟩

end Esp3Host.Station
