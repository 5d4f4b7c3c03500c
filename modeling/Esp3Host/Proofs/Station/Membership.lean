import Esp3Host.Proofs.Station.Watch

/-!
# Who is registered

A set of listeners is what the history of its calls says: everything that was registered and not
removed, in the order of registration.  Registrations are numbered one after the other, so that no
number is given twice, and a removal is answered by yes once for each of them at most.  So a number
that was kept for too long removes nobody else.
-/

namespace Esp3Host

namespace ListenerSet

/-! ## Histories -/

def Deed.register (before : List (Nat × Listener)) : Deed → List (Nat × Listener)
  | joined _ id listener => before ++ [(id, listener)]
  | left _ _ _ => before
  | revised behaviour => before.map fun (id, listener) => (id, behaviour id listener)

def registered (deeds : List Deed) : List (Nat × Listener) := deeds.foldl Deed.register []

def Deed.removed? : Deed → Option Nat
  | left _ id true => some id
  | left _ _ false | joined _ _ _ | revised _ => none

/-- The numbers whose removal was answered by yes, one for each of these answers. -/
def removed (deeds : List Deed) : List Nat := deeds.filterMap Deed.removed?

theorem registered_concat (deeds : List Deed) (deed : Deed) :
    registered (deeds ++ [deed]) = deed.register (registered deeds) := by
  simp [registered]

theorem removed_concat (deeds : List Deed) (deed : Deed) :
    removed (deeds ++ [deed]) = removed deeds ++ deed.removed?.toList := by
  rw [removed, List.filterMap_append, removed]
  cases h : deed.removed? <;> simp [h]

/-! ## Removals -/

theorem remove_fst_iff (s : ListenerSet) (id : Nat) : (s.remove id).1 = true ↔ id ∈ s.ids := by
  simp [remove, ids]

/-- What a removal is answered and what comes of it. -/
structure Removes (s : ListenerSet) (id : Nat) : Prop where
  answer : (s.remove id).1 = true ↔ id ∈ s.ids
  present : id ∈ s.ids → ∃ before listener behind,
    s.entries = before ++ (id, listener) :: behind ∧
      (s.remove id).2 = { s with entries := before ++ behind }
  absent : id ∉ s.ids → (s.remove id).2 = s

theorem filter_of_not_mem {entries : List (Nat × Listener)} {id : Nat}
    (h : id ∉ entries.map Prod.fst) : entries.filter (fun entry => entry.1 != id) = entries := by
  rw [List.filter_eq_self]
  intro entry hmem
  simpa using fun heq : entry.1 = id => h (heq ▸ List.mem_map_of_mem hmem)

theorem Numbered.removes {s : ListenerSet} (h : s.Numbered) (id : Nat) : s.Removes id where
  answer := s.remove_fst_iff id
  present := by
    intro hmem
    obtain ⟨listener, hentry⟩ : ∃ listener, (id, listener) ∈ s.entries := by
      simpa [ids] using hmem
    obtain ⟨before, behind, hentries⟩ := List.append_of_mem hentry
    refine ⟨before, listener, behind, hentries, ?_⟩
    have hdistinct : s.ids.Nodup := h.ordered.imp Nat.ne_of_lt
    rw [ids, hentries, List.map_append, List.map_cons, List.nodup_append, List.nodup_cons]
      at hdistinct
    obtain ⟨-, ⟨hbehind, -⟩, hother⟩ := hdistinct
    have hbefore : id ∉ before.map Prod.fst := fun hmem => hother id hmem id List.mem_cons_self rfl
    rw [remove, hentries, List.filter_append, filter_of_not_mem hbefore,
      List.filter_cons_of_neg (by simp), filter_of_not_mem hbehind]
  absent := by
    intro hgone
    rw [remove, filter_of_not_mem hgone]

/-! ## A set and its history -/

/-- The set is what these deeds have made of an empty one. -/
structure Recorded (deeds : List Deed) (s : ListenerSet) : Prop where
  numbers : (registered deeds).map Prod.fst = List.range s.next
  once : (removed deeds).Nodup
  lt_next : ∀ id ∈ removed deeds, id < s.next
  entries : s.entries = (registered deeds).filter (·.1 ∉ removed deeds)

namespace Recorded

variable {deeds : List Deed} {s : ListenerSet}

theorem empty : Recorded [] {} := ⟨rfl, List.nodup_nil, nofun, rfl⟩

theorem ids_eq (h : Recorded deeds s) : s.ids = (List.range s.next).filter (· ∉ removed deeds) := by
  rw [ids, h.entries, ← h.numbers, List.filter_map]
  rfl

theorem mem_ids_iff (h : Recorded deeds s) {id : Nat} :
    id ∈ s.ids ↔ id ∈ (registered deeds).map Prod.fst ∧ id ∉ removed deeds := by
  rw [h.ids_eq, h.numbers, List.mem_filter, decide_eq_true_iff]

theorem numbered (h : Recorded deeds s) : s.Numbered where
  ordered := by
    rw [h.ids_eq]
    exact List.pairwise_lt_range.filter _
  lt_next := by
    intro id hmem
    rw [h.ids_eq] at hmem
    exact List.mem_range.mp (List.mem_filter.mp hmem).1

theorem keep {t : ListenerSet} (h : Recorded deeds s) {deed : Deed}
    (hregistered : (deed.register (registered deeds)).map Prod.fst =
      (registered deeds).map Prod.fst)
    (hremoved : deed.removed? = none) (hnext : t.next = s.next)
    (hentries : t.entries = (deed.register (registered deeds)).filter (·.1 ∉ removed deeds)) :
    Recorded (deeds ++ [deed]) t := by
  have hsame : removed (deeds ++ [deed]) = removed deeds := by
    rw [removed_concat, hremoved, Option.toList_none, List.append_nil]
  constructor
  case numbers => rw [registered_concat, hregistered, h.numbers, hnext]
  case once => exact hsame ▸ h.once
  case lt_next => exact hnext ▸ hsame ▸ h.lt_next
  case entries => rw [registered_concat, hsame, hentries]

theorem add (h : Recorded deeds s) (asker : Option String) (listener : Listener) :
    Recorded (deeds ++ [.joined asker s.next listener]) (s.add listener).2 := by
  have hremoved : removed (deeds ++ [.joined asker s.next listener]) = removed deeds := by
    rw [removed_concat]
    exact List.append_nil _
  have hnew : s.next ∉ removed deeds := fun hmem => Nat.lt_irrefl _ (h.lt_next _ hmem)
  constructor
  case numbers =>
    rw [registered_concat, Deed.register, List.map_append, h.numbers, next_add, List.range_succ]
    rfl
  case once => exact hremoved ▸ h.once
  case lt_next =>
    rw [hremoved]
    exact fun id hmem => Nat.lt_succ_of_lt (h.lt_next id hmem)
  case entries =>
    rw [hremoved, registered_concat, Deed.register, List.filter_append, ← h.entries]
    simp [ListenerSet.add, hnew]

theorem remove_present (h : Recorded deeds s) (asker : Option String) {id : Nat}
    (hmem : id ∈ s.ids) : Recorded (deeds ++ [.left asker id true]) (s.remove id).2 := by
  obtain ⟨-, hhere⟩ := h.mem_ids_iff.mp hmem
  have hremoved : removed (deeds ++ [.left asker id true]) = removed deeds ++ [id] :=
    removed_concat deeds _
  constructor
  case numbers =>
    rw [registered_concat]
    exact h.numbers
  case once =>
    rw [hremoved, List.nodup_append]
    refine ⟨h.once, List.pairwise_singleton _ id, fun other hother _ hsame heq => hhere ?_⟩
    rwa [← List.mem_singleton.mp hsame, ← heq]
  case lt_next =>
    rw [hremoved, List.forall_mem_append, List.forall_mem_singleton]
    exact ⟨h.lt_next, h.numbered.lt_next id hmem⟩
  case entries =>
    rw [hremoved, registered_concat]
    change s.entries.filter _ = (registered deeds).filter _
    rw [h.entries, List.filter_filter]
    apply List.filter_congr
    intro entry _
    rw [Bool.eq_iff_iff]
    simp [and_comm]

theorem remove (h : Recorded deeds s) (asker : Option String) (id : Nat) :
    Recorded (deeds ++ [.left asker id (s.remove id).1]) (s.remove id).2 := by
  by_cases hmem : id ∈ s.ids
  · rw [(s.remove_fst_iff id).mpr hmem]
    exact h.remove_present asker hmem
  · have hundone : (s.remove id).1 = false :=
      Bool.eq_false_iff.mpr fun hdone => hmem ((s.remove_fst_iff id).mp hdone)
    rw [hundone, (h.numbered.removes id).absent hmem]
    exact h.keep rfl rfl rfl h.entries

theorem revise (h : Recorded deeds s) (behaviour : Nat → Listener → Listener) :
    Recorded (deeds ++ [.revised behaviour]) (s.revise behaviour) := by
  have hnumbers : ((Deed.revised behaviour).register (registered deeds)).map Prod.fst =
      (registered deeds).map Prod.fst := by
    simp [Deed.register, Function.comp_def]
  refine h.keep hnumbers rfl (next_revise s behaviour) ?_
  rw [ListenerSet.revise, h.entries, Deed.register, List.filter_map]
  rfl

theorem perform (h : Recorded deeds s) (call : Call) :
    Recorded (deeds ++ [(s.perform call).1]) (s.perform call).2 := by
  cases call with
  | add asker listener => exact h.add asker listener
  | remove asker id => exact h.remove asker id
  | revise behaviour => exact h.revise behaviour

theorem performAll (h : Recorded deeds s) (calls : List Call) :
    Recorded (deeds ++ (s.performAll calls).1) (s.performAll calls).2 := by
  induction calls generalizing deeds s with
  | nil =>
      rw [ListenerSet.performAll, List.append_nil]
      exact h
  | cons call rest ih =>
      have hrest := ih (h.perform call)
      rw [List.append_assoc] at hrest
      exact hrest

end Recorded

theorem recorded_performAll (calls : List Call) :
    Recorded (performAll {} calls).1 (performAll {} calls).2 :=
  Recorded.empty.performAll calls

/-! ## Numbers as names -/

theorem exists_calls_of_split {s : ListenerSet} {calls : List Call} {before behind : List Deed}
    {deed : Deed} (h : (s.performAll calls).1 = before ++ deed :: behind) :
    ∃ first call, (s.performAll first).1 = before ∧
      ((s.performAll first).2.perform call).1 = deed := by
  induction before generalizing s calls with
  | nil =>
      cases calls with
      | nil => cases h
      | cons call rest =>
          rw [performAll_cons] at h
          exact ⟨[], call, rfl, (List.cons.inj h).1⟩
  | cons earlier before ih =>
      cases calls with
      | nil => cases h
      | cons call rest =>
          rw [performAll_cons] at h
          obtain ⟨hearlier, hrest⟩ := List.cons.inj h
          obtain ⟨first, later, hbefore, hdeed⟩ := ih hrest
          exact ⟨call :: first, later, by rw [performAll_cons, hearlier, hbefore], hdeed⟩

theorem answer_iff {calls : List Call} {before behind : List Deed} {asker : Option String}
    {id : Nat} {done : Bool}
    (h : (performAll {} calls).1 = before ++ .left asker id done :: behind) :
    done = true ↔ id ∈ (registered before).map Prod.fst ∧ id ∉ removed before := by
  obtain ⟨first, call, hbefore, hdeed⟩ := exists_calls_of_split h
  have hrecorded := recorded_performAll first
  rw [hbefore] at hrecorded
  cases call with
  | add | revise => cases hdeed
  | remove other number =>
      simp only [perform, Deed.left.injEq] at hdeed
      obtain ⟨-, rfl, rfl⟩ := hdeed
      rw [remove_fst_iff, hrecorded.mem_ids_iff]

/--
Registrations were numbered one after the other, also as words of 64 bits.  What is in the set was
registered and not removed, and a removal is answered by yes once.
-/
structure Identifies (deeds : List Deed) (s : ListenerSet) : Prop where
  ordered : s.ids.Pairwise (· < ·)
  lt_next : ∀ id ∈ s.ids, id < s.next
  numbers : (registered deeds).map Prod.fst = List.range s.next
  words : s.next < UInt64.size →
    (((registered deeds).map Prod.fst ++ [s.next]).map UInt64.ofNat).Pairwise (· < ·)
  entries : s.entries = (registered deeds).filter (·.1 ∉ removed deeds)
  once : (removed deeds).Nodup
  answers : ∀ before asker id done behind, deeds = before ++ .left asker id done :: behind →
    (done = true ↔ id ∈ (registered before).map Prod.fst ∧ id ∉ removed before)
  removes : ∀ id, s.Removes id

theorem identifies (calls : List Call) :
    Identifies (performAll {} calls).1 (performAll {} calls).2 where
  ordered := (recorded_performAll calls).numbered.ordered
  lt_next := (recorded_performAll calls).numbered.lt_next
  numbers := (recorded_performAll calls).numbers
  words := by
    intro hroom
    rw [(recorded_performAll calls).numbers, ← List.range_succ, List.pairwise_map]
    have hfits : ∀ id ∈ List.range ((performAll {} calls).2.next + 1), id < UInt64.size :=
      fun id hmem => Nat.lt_of_lt_of_le (List.mem_range.mp hmem) hroom
    refine List.pairwise_lt_range.imp_of_mem fun hfirst hsecond hlt => ?_
    exact (UInt64.ofNat_lt_iff_lt (hfits _ hfirst) (hfits _ hsecond)).mpr hlt
  entries := (recorded_performAll calls).entries
  once := (recorded_performAll calls).once
  answers _ _ _ _ _ := answer_iff
  removes := (recorded_performAll calls).numbered.removes

end ListenerSet

namespace Station

variable {σ : Type} (reg : TeachIn.Registry σ)

/--
Whatever calls are made of a set of listeners, its numbers tell all registrations apart.  The set of
a station in operation is what the calls of the host and of callbacks have made of it, one after the
other, and callbacks get its answers.
-/
theorem registrations_never_confused (engine : TeachIn.Engine σ) (tuning : Tuning)
    (receivers : Nat) (acts : List Act) :
    let start := fresh engine tuning {} receivers
    let s := start.run reg acts
    let history := ({} : ListenerSet).performAll (start.setCallsIn reg acts)
    s.listeners = history.2 ∧
      s.link.answerEntries = history.1.filterMap ListenerSet.Deed.entry? ∧
      ∀ calls, ListenerSet.Identifies (({} : ListenerSet).performAll calls).1
        (({} : ListenerSet).performAll calls).2 := by
  intro start s history
  have hengaged := engaged_run reg start acts
  exact ⟨hengaged.listeners, hengaged.answerEntries, ListenerSet.identifies⟩

theorem registrations_never_confused_stale :
    let first := Listener.mk "first" true true
      (fun _ _ => [.unsubscribe 1, .subscribe (.recorder "third" true), .unsubscribe 1])
      (fun _ _ => [])
    let acts := [.listen first, .listen (.recorder "second" true), .deliver 0, .unlisten 1]
    let start := fresh (σ := DeviceTable) { registry := {} } {} {} 1
    let s := start.run TeachIn.tableRegistry acts
    s.link.answerEntries = [.left "first" true, .joined "first" 2, .left "first" false] ∧
      s.listeners.ids = [0, 2] ∧ s.listeners.next < UInt64.size ∧
      ([0, 1, 2, 3] : List UInt64).Pairwise (· < ·) ∧
      (s.listeners.remove 1).1 = false ∧ (s.listeners.remove 1).2 = s.listeners := by
  intro first acts start s
  obtain ⟨hlisteners, hanswers, hidentifies⟩ :=
    registrations_never_confused TeachIn.tableRegistry { registry := {} } {} 1 acts
  have hhistory := hidentifies (start.setCallsIn TeachIn.tableRegistry acts)
  have hroom : s.listeners.next < UInt64.size := by decide
  have hgone : 1 ∉ s.listeners.ids := by decide
  rw [← hlisteners] at hhistory
  have hwords := hhistory.words hroom
  rw [hhistory.numbers] at hwords
  exact ⟨hanswers, rfl, hroom, hwords, rfl, (hhistory.removes 1).absent hgone⟩

end Station

end Esp3Host
