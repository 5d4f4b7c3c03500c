import Esp3Host.Proofs.TeachIn.Asides
import Esp3Host.Proofs.TeachIn.Outcome

/-!
# Unknown senders before an open window

A telegram of a sender that the table does not know gets through to the decision about its kind, if
the window is open, not overdue and admits the sender.  The attempt to register the sender then
succeeds exactly if the table lists the profile, whatever observers do meanwhile.
-/

namespace Esp3Host.TeachIn.Engine

variable {p : Packet} {t : Telegram} {w : Window}

theorem handleUnknown_of_window {σ : Type} (reg : Registry σ) {e : Engine σ}
    (hwindow : e.window = some w) (hadmits : w.admits t.sender = true) :
    e.handleUnknown reg t = e.handleAdmitted reg t (w.target.map Target.profile) := by
  rw [handleUnknown, hwindow]
  dsimp only
  cases htarget : w.target with
  | none => rfl
  | some target =>
      have haddress : target.address = t.sender := by
        simpa [Window.admits, htarget] using hadmits
      dsimp only
      rw [if_neg (not_not_intro haddress), Option.map_some]

variable {e : Engine DeviceTable}

structure Encounter (p : Packet) (t : Telegram) (w : Window) (e : Engine DeviceTable) : Prop where
  parse : Telegram.ofPacket p = .ok t
  unknown : e.registry.find? t.sender = none
  window : e.window = some w
  early : w.expired e.clock = false
  admits : w.admits t.sender = true

theorem Encounter.handle_eq (h : Encounter p t w e) :
    e.handle tableRegistry p =
      e.handleAdmitted tableRegistry t (w.target.map Target.profile) := by
  have hexpire : (e.expire e.clock).2 = e := by simp [expire, h.window, h.early]
  rw [handle, hexpire, h.parse]
  dsimp only
  rw [handleTelegram, lookup_tableRegistry, h.unknown]
  exact handleUnknown_of_window tableRegistry h.window h.admits

/-! ## Registering -/

theorem create_of_welcomes {device : Device} (h : e.Welcomes device) :
    ∃ next, e.create tableRegistry device = (.ok device, next) ∧
      Aside { e with registry.devices := e.registry.devices ++ [device] } next := by
  simp only [create, tableRegistry, createInTable, DeviceTable.create, h.supported, h.unknown]
  exact ⟨_, rfl, Aside.foldl (fun e n => .note .refl (.registry n)) _ _⟩

theorem register_of_welcomes {manufacturer : Nat} {profile : Profile}
    (h : e.Welcomes ⟨t.sender, manufacturer, profile⟩) :
    ∃ last, e.register tableRegistry t manufacturer profile =
        (.created ⟨t.sender, manufacturer, profile⟩, last) ∧
      Aside { e with registry.devices :=
        e.registry.devices ++ [⟨t.sender, manufacturer, profile⟩] } last := by
  obtain ⟨entered, hentered, haside⟩ := create_of_welcomes h
  have henrolment := enrolment_register tableRegistry t manufacturer profile e
  generalize e.register tableRegistry t manufacturer profile = result at henrolment ⊢
  obtain ⟨registration, last⟩ := result
  cases henrolment with
  | closed hadmits => cases hadmits.symm.trans h.admits
  | failed _ hcreate => cases hcreate.symm.trans hentered
  | joined _ _ hcreate =>
      cases hcreate.symm.trans hentered
      exact ⟨_, rfl, (haside.note _).trans (aside_notify _ _)⟩
  | completed _ _ hcreate =>
      cases hcreate.symm.trans hentered
      refine ⟨_, rfl, ?_⟩
      have hannounced := ((haside.turned {}).note (.learned t.sender profile t.kind)).trans
        (aside_notify _ (.found ⟨t.sender, manufacturer, profile⟩))
      exact (hannounced.note .windowClosed).trans (aside_notify _ .ended)

theorem register_of_unlisted {profile : Profile} (hadmits : e.admits t.sender = true)
    (hunlisted : e.registry.supports profile = false) (manufacturer : Nat) :
    ∃ last, e.register tableRegistry t manufacturer profile = (.failed, last) ∧ Aside e last := by
  have hcreate : e.create tableRegistry ⟨t.sender, manufacturer, profile⟩ =
      (.error (.unsupportedProfile profile), e.note (.registry (.refused profile t.sender))) := by
    simp [create, tableRegistry, createInTable, DeviceTable.create, creationNotes, hunlisted]
  exact ⟨_, register_of_enrolment _ (.failed hadmits hcreate), (Aside.refl.note _).note _⟩

namespace Encounter

theorem admits_sender (h : Encounter p t w e) : e.admits t.sender = true := by
  rw [Engine.admits, h.window]
  exact h.admits

theorem welcomes (h : Encounter p t w e) {profile : Profile}
    (hlisted : e.registry.supports profile = true) (manufacturer : Nat) :
    e.Welcomes ⟨t.sender, manufacturer, profile⟩ :=
  ⟨h.admits_sender, h.unknown, hlisted⟩

theorem register_eq (h : Encounter p t w e) (manufacturer : Nat) (profile : Profile) :
    ∃ last, e.register tableRegistry t manufacturer profile =
        (if e.registry.supports profile then .created ⟨t.sender, manufacturer, profile⟩
          else .failed, last) ∧
      last.link = { e.link with journal := last.link.journal } := by
  cases hsupported : e.registry.supports profile with
  | true =>
      obtain ⟨last, hregister, haside⟩ := register_of_welcomes (h.welcomes hsupported manufacturer)
      exact ⟨last, hregister, haside.link_eq⟩
  | false =>
      obtain ⟨last, hregister, haside⟩ :=
        register_of_unlisted h.admits_sender hsupported manufacturer
      exact ⟨last, hregister, haside.link_eq⟩

theorem learn_fst (h : Encounter p t w e) (manufacturer : Nat) (profile : Profile) :
    (e.learn tableRegistry t manufacturer profile).1 =
      if e.registry.supports profile then .learned ⟨t.sender, manufacturer, profile⟩
      else .rejected := by
  obtain ⟨last, hregister, -⟩ := h.register_eq manufacturer profile
  rw [learn, hregister]
  cases e.registry.supports profile <;> rfl

end Encounter

end Esp3Host.TeachIn.Engine
