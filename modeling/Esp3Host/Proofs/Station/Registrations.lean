import Esp3Host.Listener

/-!
# Registrations of listeners

Whatever callbacks and the host do, a set of listeners changes by registrations, by removals and by
new behaviour of listeners.  Registrations are numbered upwards, so that a number that was given
away and is not in the set will never be in it again.  `performAll` makes such changes one after the
other and tells what was answered.
-/

namespace Esp3Host

namespace ListenerSet

def ids (s : ListenerSet) : List Nat := s.entries.map Prod.fst

def revise (s : ListenerSet) (behaviour : Nat → Listener → Listener) : ListenerSet :=
  { s with entries := s.entries.map fun (id, listener) => (id, behaviour id listener) }

@[simp] theorem ids_add (s : ListenerSet) (listener : Listener) :
    (s.add listener).2.ids = s.ids ++ [s.next] := by
  simp [ids, add]

@[simp] theorem next_add (s : ListenerSet) (listener : Listener) :
    (s.add listener).2.next = s.next + 1 := rfl

@[simp] theorem ids_remove (s : ListenerSet) (id : Nat) :
    (s.remove id).2.ids = s.ids.filter (· != id) := by
  simp [ids, remove, List.filter_map, Function.comp_def]

@[simp] theorem next_remove (s : ListenerSet) (id : Nat) : (s.remove id).2.next = s.next := rfl

@[simp] theorem ids_revise (s : ListenerSet) (behaviour : Nat → Listener → Listener) :
    (s.revise behaviour).ids = s.ids := by
  simp [ids, revise]

@[simp] theorem next_revise (s : ListenerSet) (behaviour : Nat → Listener → Listener) :
    (s.revise behaviour).next = s.next := rfl

/-- The registrations stand in the order of their numbers, the next number is above them all. -/
structure Numbered (s : ListenerSet) : Prop where
  ordered : s.ids.Pairwise (· < ·)
  lt_next : ∀ id ∈ s.ids, id < s.next

/-- The second set is the first one after registrations, removals and new behaviour. -/
inductive Changed (s : ListenerSet) : ListenerSet → Prop
  | refl : Changed s s
  | add {next : ListenerSet} (h : Changed s next) (listener : Listener) :
      Changed s (next.add listener).2
  | remove {next : ListenerSet} (h : Changed s next) (id : Nat) : Changed s (next.remove id).2
  | revise {next : ListenerSet} (h : Changed s next) (behaviour : Nat → Listener → Listener) :
      Changed s (next.revise behaviour)

namespace Changed

variable {a b c : ListenerSet}

theorem trans (first : Changed a b) (second : Changed b c) : Changed a c := by
  induction second with
  | refl => exact first
  | add _ listener ih => exact .add ih listener
  | remove _ id ih => exact .remove ih id
  | revise _ behaviour ih => exact .revise ih behaviour

theorem next_le (h : Changed a b) : a.next ≤ b.next := by
  induction h with
  | refl => exact Nat.le_refl _
  | add _ _ ih => exact Nat.le_succ_of_le ih
  | remove _ _ ih | revise _ _ ih => exact ih

theorem numbered (h : Changed a b) (hnumbered : a.Numbered) : b.Numbered := by
  induction h with
  | refl => exact hnumbered
  | @add next _ listener ih =>
      constructor
      case ordered =>
        rw [ids_add, List.pairwise_append]
        refine ⟨ih.ordered, List.pairwise_singleton _ _, fun id hmem new hnew => ?_⟩
        rw [List.mem_singleton.mp hnew]
        exact ih.lt_next id hmem
      case lt_next =>
        simp only [ids_add, List.mem_append, List.mem_singleton, next_add]
        rintro id (hmem | rfl)
        · exact Nat.lt_succ_of_lt (ih.lt_next id hmem)
        · exact Nat.lt_succ_self _
  | remove _ id ih =>
      constructor
      case ordered =>
        rw [ids_remove]
        exact ih.ordered.filter _
      case lt_next =>
        rw [ids_remove]
        exact fun other hmem => ih.lt_next other (List.mem_filter.mp hmem).1
  | revise _ behaviour ih => exact ⟨by simpa using ih.ordered, by simpa using ih.lt_next⟩

theorem mem_or_new (h : Changed a b) {id : Nat} (hmem : id ∈ b.ids) :
    id ∈ a.ids ∨ a.next ≤ id := by
  induction h with
  | refl => exact .inl hmem
  | @add next hchanged listener ih =>
      rw [ids_add, List.mem_append, List.mem_singleton] at hmem
      rcases hmem with hmem | rfl
      · exact ih hmem
      · exact .inr hchanged.next_le
  | remove _ _ ih =>
      rw [ids_remove] at hmem
      exact ih (List.mem_filter.mp hmem).1
  | revise _ _ ih =>
      rw [ids_revise] at hmem
      exact ih hmem

theorem not_mem (h : Changed a b) {id : Nat} (hgiven : id < a.next) (hgone : id ∉ a.ids) :
    id ∉ b.ids := by
  intro hmem
  rcases h.mem_or_new hmem with hthere | hnew
  · exact hgone hthere
  · exact Nat.not_lt_of_le hnew hgiven

end Changed

/-! ## Calls -/

/--
The asker is the listener whose callback makes the call.  A call of `revise` asks for nothing, but
the listeners behave differently from now on.
-/
inductive Call where
  | add (asker : Option String) (listener : Listener)
  | remove (asker : Option String) (id : Nat)
  | revise (behaviour : Nat → Listener → Listener)

inductive Deed where
  | joined (asker : Option String) (id : Nat) (listener : Listener)
  | left (asker : Option String) (id : Nat) (done : Bool)
  | revised (behaviour : Nat → Listener → Listener)

def perform (s : ListenerSet) : Call → Deed × ListenerSet
  | .add asker listener =>
      let (id, s) := s.add listener
      (.joined asker id listener, s)
  | .remove asker id =>
      let (done, s) := s.remove id
      (.left asker id done, s)
  | .revise behaviour => (.revised behaviour, s.revise behaviour)

def performAll (s : ListenerSet) : List Call → List Deed × ListenerSet
  | [] => ([], s)
  | call :: rest =>
      let (deed, s) := s.perform call
      let (deeds, s) := s.performAll rest
      (deed :: deeds, s)

theorem performAll_cons (s : ListenerSet) (call : Call) (rest : List Call) :
    s.performAll (call :: rest) =
      ((s.perform call).1 :: ((s.perform call).2.performAll rest).1,
        ((s.perform call).2.performAll rest).2) := rfl

theorem performAll_append (s : ListenerSet) (first second : List Call) :
    s.performAll (first ++ second) =
      ((s.performAll first).1 ++ ((s.performAll first).2.performAll second).1,
        ((s.performAll first).2.performAll second).2) := by
  induction first generalizing s with
  | nil => rfl
  | cons call rest ih => simp only [List.cons_append, performAll_cons, ih]

theorem changed_performAll (s : ListenerSet) (calls : List Call) :
    s.Changed (s.performAll calls).2 := by
  induction calls generalizing s with
  | nil => exact .refl
  | cons call rest ih =>
      apply Changed.trans _ (ih (s.perform call).2)
      cases call with
      | add _ listener => exact .add .refl listener
      | remove _ id => exact .remove .refl id
      | revise behaviour => exact .revise .refl behaviour

end ListenerSet

end Esp3Host
