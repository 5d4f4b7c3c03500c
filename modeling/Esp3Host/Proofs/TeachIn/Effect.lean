import Esp3Host.Proofs.Link.Traffic
import Esp3Host.TeachIn.Handle

/-!
# Effects

An effect tells what an operation does to the devices, the window, the queues to send and the
observers.  What it does not mention stays as it is, log notes apart.  The effect of operations in a
row is the join of their effects.
-/

namespace Esp3Host

namespace Journal

theorem notices_add_note (j : Journal) (n : Note) : (j.add (.note n)).notices = j.notices := by
  simp [notices]

theorem notices_add_notified (j : Journal) (observer : String) (notice : TeachIn.Notice) :
    (j.add (.notified observer notice)).notices = j.notices ++ [(observer, notice)] := by
  simp [notices]

end Journal

namespace TeachIn

structure Effect where
  devices : List Device := []
  closes : Bool := false
  notices : List Notice := []
  urgent : List Packet := []
  ordinary : List Packet := []

def Effect.join (first second : Effect) : Effect where
  devices := first.devices ++ second.devices
  closes := first.closes || second.closes
  notices := first.notices ++ second.notices
  urgent := first.urgent ++ second.urgent
  ordinary := first.ordinary ++ second.ordinary

theorem Effect.join_nothing (effect : Effect) : effect.join {} = effect := by
  simp [join]

namespace Engine

def Quiet {σ : Type} (e : Engine σ) : Prop :=
  ∀ observer ∈ e.observers, ∀ notice, observer.calls notice = []

def recordOf {σ : Type} (e : Engine σ) (notice : Notice) : List (String × Notice) :=
  (e.observers.filter Observer.recorded).map fun observer => (observer.name, notice)

/-- The second engine is the first one after this effect. -/
structure Changes (before after : Engine DeviceTable) (effect : Effect) : Prop where
  registry : after.registry =
    { before.registry with devices := before.registry.devices ++ effect.devices }
  state : after.state = if effect.closes then {} else before.state
  observers : after.observers = before.observers
  clock : after.clock = before.clock
  nesting : after.nesting = before.nesting
  link : after.link =
    { before.link with
      sendHigh := before.link.sendHigh ++ effect.urgent.map fun p => ⟨p, 1⟩
      sendLow := before.link.sendLow ++
        effect.ordinary.map fun p => ⟨p, before.link.tuning.attempts⟩
      journal := after.link.journal }
  notices : after.link.journal.notices =
    before.link.journal.notices ++ effect.notices.flatMap before.recordOf

namespace Changes

variable {a b c : Engine DeviceTable} {first second : Effect}

theorem window (h : Changes a b first) :
    b.window = if first.closes then none else a.window := by
  rw [Engine.window, h.state]
  split <;> rfl

theorem quiet (h : Changes a b first) (hquiet : a.Quiet) : b.Quiet := by
  intro observer hmem
  exact hquiet observer (h.observers ▸ hmem)

theorem trans (hfirst : Changes a b first) (hsecond : Changes b c second) :
    Changes a c (first.join second) where
  registry := by
    rw [hsecond.registry, hfirst.registry]
    simp [Effect.join]
  state := by
    rw [hsecond.state, hfirst.state]
    cases hcloses : first.closes <;> simp [Effect.join, hcloses]
  observers := hsecond.observers.trans hfirst.observers
  clock := hsecond.clock.trans hfirst.clock
  nesting := hsecond.nesting.trans hfirst.nesting
  link := by
    rw [hsecond.link, hfirst.link]
    simp [Effect.join]
  notices := by
    have hrecord : b.recordOf = a.recordOf := by
      funext notice
      rw [recordOf, hfirst.observers, recordOf]
    rw [hsecond.notices, hfirst.notices, hrecord]
    simp [Effect.join]

end Changes

variable {a b e : Engine DeviceTable} {first : Effect}

/-! ## Single operations -/

theorem changes_journal (e : Engine DeviceTable) (journal : Journal) (notices : List Notice)
    (h : journal.notices = e.link.journal.notices ++ notices.flatMap e.recordOf) :
    Changes e { e with link := { e.link with journal } } { notices } :=
  ⟨by simp, rfl, rfl, rfl, rfl, by simp, h⟩

theorem changes_refl (e : Engine DeviceTable) : Changes e e {} :=
  changes_journal e e.link.journal [] (by simp)

theorem changes_note (e : Engine DeviceTable) (n : Note) : Changes e (e.note n) {} :=
  changes_journal e _ [] (by simp [Journal.notices_add_note])

theorem changes_devices (e : Engine DeviceTable) (device : Device) :
    Changes e
      { e with registry := { e.registry with devices := e.registry.devices ++ [device] } }
      { devices := [device] } :=
  ⟨rfl, rfl, rfl, rfl, rfl, by simp, by simp⟩

theorem changes_close (e : Engine DeviceTable) :
    Changes e { e with state := {} } { closes := true } :=
  ⟨by simp, rfl, rfl, rfl, rfl, by simp, by simp⟩

theorem changes_send (e : Engine DeviceTable) (p : Packet) (isUrgent : Bool) :
    Changes e { e with link := e.link.send (if isUrgent then .high else .low) p }
      { urgent := if isUrgent then [p] else [], ordinary := if isUrgent then [] else [p] } where
  registry := by simp
  state := rfl
  observers := rfl
  clock := rfl
  nesting := rfl
  link := by
    rw [Link.send, Link.sendWith_eq]
    cases isUrgent <;> simp
  notices := by
    cases isUrgent <;>
      simp [Link.send, Link.sendWith, Link.enqueue, Link.note, Link.record,
        Journal.notices_add_note]

theorem tell_of_quiet (perform : Performer DeviceTable) {notice : Notice} {observer : Observer}
    (h : observer.calls notice = []) (e : Engine DeviceTable) :
    tell perform notice e observer =
      if observer.recorded then e.record (.notified observer.name notice) else e := by
  simp [tell, answerCalls, h]

theorem foldl_tell_of_quiet (perform : Performer DeviceTable) {notice : Notice}
    {observers : List Observer} (h : ∀ observer ∈ observers, observer.calls notice = [])
    (e : Engine DeviceTable) :
    ∃ journal, observers.foldl (tell perform notice) e =
        { e with link := { e.link with journal } } ∧
      journal.notices = e.link.journal.notices ++
        (observers.filter Observer.recorded).map fun observer => (observer.name, notice) := by
  induction observers generalizing e with
  | nil => exact ⟨e.link.journal, rfl, by simp⟩
  | cons observer rest ih =>
      obtain ⟨hobserver, hrest⟩ := List.forall_mem_cons.mp h
      rw [List.foldl_cons, tell_of_quiet perform hobserver]
      cases hrecorded : observer.recorded with
      | false => simpa [hrecorded] using ih hrest e
      | true =>
          obtain ⟨journal, hlater, hnotices⟩ :=
            ih hrest (e.record (.notified observer.name notice))
          refine ⟨journal, hlater, ?_⟩
          rw [hnotices]
          simp [record, Link.record, Journal.notices_add_notified, hrecorded]

theorem changes_announce (perform : Performer DeviceTable) (hquiet : e.Quiet) (notice : Notice) :
    Changes e (announce perform notice e) { notices := [notice] } := by
  obtain ⟨journal, hafter, hnotices⟩ := foldl_tell_of_quiet perform
    (fun observer hmem => hquiet observer hmem notice) e
  rw [announce, hafter]
  exact changes_journal e journal [notice] (by simpa [recordOf] using hnotices)

/-! ## Operations in a row -/

theorem Changes.note (h : Changes a b first)
    (n : Note) : Changes a (b.note n) first := by
  have hnoted := h.trans (changes_note b n)
  rwa [Effect.join_nothing] at hnoted

theorem Changes.notify (h : Changes a b first)
    (hquiet : a.Quiet) (notice : Notice) :
    Changes a (b.notify notice) (first.join { notices := [notice] }) :=
  h.trans (changes_announce _ (h.quiet hquiet) notice)

theorem changes_closeWith (perform : Performer DeviceTable) (reason : Note) (hquiet : e.Quiet)
    (hopen : e.isOpen = true) :
    Changes e (closeWith perform reason e).2 { closes := true, notices := [.ended] } := by
  rw [closeWith, if_pos hopen]
  have hclosed := (changes_close e).note reason
  exact hclosed.trans (changes_announce perform (hclosed.quiet hquiet) .ended)

theorem quiet_expire (hquiet : e.Quiet) (now : Instant) : (e.expire now).2.Quiet := by
  unfold expire
  split
  case h_1 w hwindow =>
    split
    · exact (changes_closeWith _ _ hquiet (by simp [isOpen, hwindow])).quiet hquiet
    · exact hquiet
  case h_2 => exact hquiet

end Engine

end TeachIn

end Esp3Host
