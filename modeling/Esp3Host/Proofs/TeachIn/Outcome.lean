import Esp3Host.Proofs.TeachIn.Effect
import Esp3Host.Proofs.TeachIn.Treatment

/-!
# What an outcome stands for

The outcome of a packet tells the whole effect of handling it, if observers do not call back.  Each
exit of the engine is a row of operations, and its effect is the join of theirs.
-/

namespace Esp3Host.TeachIn

def Effect.learned (device : Device) (targeted : Bool) : Effect where
  devices := [device]
  closes := targeted
  notices := .found device :: if targeted then [.ended] else []

def Effect.answer (t : Telegram) (q : Query) (code : AnswerCode) : Effect where
  urgent := if q.responseRequired then [q.answer code t.sender] else []
  ordinary := if q.responseRequired then [] else [q.answer code t.sender]

structure Engine.Enters (e : Engine DeviceTable) (t : Telegram) (device : Device) : Prop where
  address : device.address = t.sender
  unknown : e.registry.find? t.sender = none

def Registration.Accounts (t : Telegram) (before after : Engine DeviceTable) : Registration → Prop
  | .created device => before.Enters t device ∧
      before.Changes after (.learned device before.isTargeted)
  | .closed | .failed => before.Changes after {}

/-- The effect of handling a packet that an outcome stands for. -/
def Outcome.Accounts (p : Packet) (before after : Engine DeviceTable) : Outcome → Prop
  | .registered device => ∃ t, Telegram.ofPacket p = .ok t ∧
      before.registry.find? t.sender = some device ∧
      before.Changes after { notices := [.registered device p] }
  | .learned device => ∃ t, Telegram.ofPacket p = .ok t ∧ before.Enters t device ∧
      before.Changes after (.learned device before.isTargeted)
  | .answered code device => ∃ t q, Telegram.ofPacket p = .ok t ∧ Query.ofTelegram t = .ok q ∧
      match code, device with
      | .success, some device => before.Enters t device ∧
          before.Changes after
            ((Effect.learned device before.isTargeted).join (.answer t q .success))
      | .refused, none => before.Changes after (.answer t q .refused)
      | .deletionAccepted, none => before.isOpen = true ∧
          before.Changes after
            (Effect.join { closes := true, notices := [.ended] } (.answer t q .deletionAccepted))
      | _, _ => False
  | .ignored | .notLearning | .notTarget | .notTeachIn | .noProfile | .rejected =>
      before.Changes after {}

namespace Engine

variable {e next last after : Engine DeviceTable} {device : Device} {p : Packet} {t : Telegram}

theorem lookup_tableRegistry (e : Engine DeviceTable) (address : Address) :
    e.lookup tableRegistry address = (e.registry.find? address, e) := rfl

theorem supports_tableRegistry (e : Engine DeviceTable) (profile : Profile) :
    e.supports tableRegistry profile = (e.registry.supports profile, e) := rfl

theorem Changes.registry_eq (h : Changes e next {}) : next.registry = e.registry := by
  simpa using h.registry

theorem Changes.window_eq (h : Changes e next {}) : next.window = e.window := h.window

theorem Changes.after_nothing {effect : Effect} (h : Changes e next {})
    (hlast : Changes next last effect) : Changes e last effect :=
  h.trans hlast

theorem Changes.sendAnswer {effect : Effect} (h : Changes e after effect) (t : Telegram)
    (q : Query) (code : AnswerCode) (device : Option Device) :
    Changes e (after.sendAnswer t q code device).2 (effect.join (.answer t q code)) :=
  h.trans (changes_send after (q.answer code t.sender) q.responseRequired)

/-! ## Creating devices -/

/-- The window admits the device, its address is free and the table lists its profile. -/
structure Welcomes (e : Engine DeviceTable) (device : Device) : Prop where
  admits : e.admits device.address = true
  unknown : e.registry.find? device.address = none
  supported : e.registry.supports device.profile = true

theorem Welcomes.of_changes (h : Changes e next {}) (hnext : next.Welcomes device) :
    e.Welcomes device := by
  obtain ⟨hadmits, hunknown, hsupported⟩ := hnext
  rw [h.registry_eq] at hunknown hsupported
  rw [Engine.admits, h.window_eq] at hadmits
  exact ⟨hadmits, hunknown, hsupported⟩

theorem create_tableRegistry (e : Engine DeviceTable) (device : Device) :
    (∃ after, e.create tableRegistry device = (.ok device, after) ∧
        e.registry.find? device.address = none ∧ e.registry.supports device.profile = true ∧
        Changes e after { devices := [device] }) ∨
      ∃ cause after, e.create tableRegistry device = (.error cause, after) ∧
        Changes e after {} := by
  simp only [create, tableRegistry, createInTable, DeviceTable.create]
  cases hsupported : e.registry.supports device.profile with
  | false => exact .inr ⟨_, _, rfl, changes_note e _⟩
  | true =>
      cases hfound : e.registry.find? device.address with
      | some known => exact .inr ⟨_, _, rfl, changes_refl e⟩
      | none =>
          exact .inl ⟨_, rfl, rfl, rfl, (changes_devices e device).note _⟩

theorem create_eq_ok {created : Device}
    (h : e.create tableRegistry device = (.ok created, next)) :
    created = device ∧ e.registry.find? device.address = none ∧
      e.registry.supports device.profile = true ∧ Changes e next { devices := [device] } := by
  rcases create_tableRegistry e device with ⟨_, hcreate, hentered⟩ | ⟨_, _, hcreate, -⟩
  · cases h.symm.trans hcreate
    exact ⟨rfl, hentered⟩
  · cases h.symm.trans hcreate

theorem create_eq_error {cause : DeviceError}
    (h : e.create tableRegistry device = (.error cause, next)) : Changes e next {} := by
  rcases create_tableRegistry e device with ⟨_, hcreate, -⟩ | ⟨_, _, hcreate, hfailed⟩
  · cases h.symm.trans hcreate
  · cases h.symm.trans hcreate
    exact hfailed

section

variable {registration : Registration} {manufacturer : Nat} {profile : Profile}

theorem welcomes_of_enrolment
    (h : Enrolment tableRegistry t manufacturer profile e (.created device) last) :
    device = ⟨t.sender, manufacturer, profile⟩ ∧ e.Welcomes device := by
  cases h with
  | joined hadmits _ hcreate | completed hadmits _ hcreate =>
      obtain ⟨rfl, hunknown, hsupported, -⟩ := create_eq_ok hcreate
      exact ⟨rfl, hadmits, hunknown, hsupported⟩

theorem accounts_of_enrolment (hquiet : e.Quiet)
    (h : Enrolment tableRegistry t manufacturer profile e registration last) :
    registration.Accounts t e last := by
  cases h with
  | closed => exact changes_note e _
  | failed _ hcreate => exact (create_eq_error hcreate).note _
  | joined _ htargeted hcreate =>
      obtain ⟨rfl, hunknown, -, hentered⟩ := create_eq_ok hcreate
      rw [Registration.Accounts, htargeted]
      exact ⟨⟨rfl, hunknown⟩, (hentered.note _).notify hquiet _⟩
  | @completed next _ _ htargeted hcreate =>
      obtain ⟨rfl, hunknown, -, hentered⟩ := create_eq_ok hcreate
      rw [Registration.Accounts, htargeted]
      have hclosed := hentered.trans (changes_close next)
      exact ⟨⟨rfl, hunknown⟩, (((hclosed.note _).notify hquiet _).note _).notify hquiet _⟩

theorem changes_consulted (h : Consulted tableRegistry e next) : Changes e next {} := by
  induction h with
  | refl => exact changes_refl e
  | note _ n _ ih => exact ih.note n
  | lookup _ address ih => exact ih
  | supports _ profile ih => exact ih

theorem learned_of_enrolment (hquiet : e.Quiet) (hnext : Consulted tableRegistry e next)
    (h : Enrolment tableRegistry t manufacturer profile next (.created device) last) :
    device = ⟨t.sender, manufacturer, profile⟩ ∧ e.Welcomes device ∧
      Changes e last (.learned device e.isTargeted) := by
  have hchanges := changes_consulted hnext
  have hlearned := (accounts_of_enrolment (hchanges.quiet hquiet) h).2
  obtain ⟨hdevice, hwelcomes⟩ := welcomes_of_enrolment h
  rw [isTargeted, hchanges.window_eq] at hlearned
  exact ⟨hdevice, hwelcomes.of_changes hchanges, hchanges.after_nothing hlearned⟩

end

/-! ## Packets -/

/-- What a packet can come to, and what it does then. -/
inductive Treated (p : Packet) (e : Engine DeviceTable) : Outcome → Effect → Prop
  | passed {outcome : Outcome} (hidle : outcome.isIdle = true) : Treated p e outcome {}
  | rejected : Treated p e .rejected {}
  | heard (t : Telegram) (device : Device) (hparse : Telegram.ofPacket p = .ok t)
      (hknown : e.registry.find? t.sender = some device) :
      Treated p e (.registered device) { notices := [.registered device p] }
  | refused (t : Telegram) (q : Query) (hparse : Telegram.ofPacket p = .ok t)
      (hquery : Query.ofTelegram t = .ok q) :
      Treated p e (.answered .refused none) (.answer t q .refused)
  | deleted (t : Telegram) (q : Query) (hparse : Telegram.ofPacket p = .ok t)
      (hquery : Query.ofTelegram t = .ok q) (hopen : e.isOpen = true) :
      Treated p e (.answered .deletionAccepted none)
        (Effect.join { closes := true, notices := [.ended] } (.answer t q .deletionAccepted))
  | learned {device : Device} (t : Telegram) (hparse : Telegram.ofPacket p = .ok t)
      (hkind : t.kind ≠ .universalTeachIn) (hsender : device.address = t.sender)
      (h : e.Welcomes device) :
      Treated p e (.learned device) (.learned device e.isTargeted)
  | paired (t : Telegram) (q : Query) (hparse : Telegram.ofPacket p = .ok t)
      (hquery : Query.ofTelegram t = .ok q)
      (h : e.Welcomes ⟨t.sender, q.manufacturer, q.profile⟩) :
      Treated p e (.answered .success (some ⟨t.sender, q.manufacturer, q.profile⟩))
        ((Effect.learned ⟨t.sender, q.manufacturer, q.profile⟩ e.isTargeted).join
          (.answer t q .success))

theorem treated_of_treatment (hquiet : e.Quiet) {outcome : Outcome}
    (h : Treatment tableRegistry p e outcome after) :
    ∃ effect, Treated p e outcome effect ∧ Changes e after effect := by
  cases h with
  | dismissed hidle hnext => exact ⟨{}, .passed hidle, changes_consulted hnext⟩
  | heard t device hparse hknown =>
      have hnotified := (changes_refl e).notify hquiet (.registered device p)
      exact ⟨_, .heard t device hparse hknown, hnotified⟩
  | @tried next last registration t manufacturer profile hparse hkind hnext henrolment =>
      have hchanges := changes_consulted hnext
      have haccounts := accounts_of_enrolment (hchanges.quiet hquiet) henrolment
      cases registration with
      | created device =>
          obtain ⟨rfl, hwelcomes, hlearned⟩ := learned_of_enrolment hquiet hnext henrolment
          exact ⟨_, .learned t hparse hkind rfl hwelcomes, hlearned⟩
      | closed => exact ⟨{}, .passed rfl, hchanges.after_nothing haccounts⟩
      | failed => exact ⟨{}, .rejected, hchanges.after_nothing haccounts⟩
  | paired t q hparse hquery hnext henrolment =>
      obtain ⟨rfl, hwelcomes, hlearned⟩ := learned_of_enrolment hquiet hnext henrolment
      exact ⟨_, .paired t q hparse hquery hwelcomes, hlearned.sendAnswer t q .success _⟩
  | missed t q _ _ hnext henrolment =>
      have hchanges := changes_consulted hnext
      have hmissed := accounts_of_enrolment (hchanges.quiet hquiet) henrolment
      exact ⟨{}, .passed rfl, hchanges.after_nothing hmissed⟩
  | failed t q hparse hquery hnext henrolment =>
      have hchanges := changes_consulted hnext
      have hfailed := accounts_of_enrolment (hchanges.quiet hquiet) henrolment
      exact ⟨_, .refused t q hparse hquery,
        (hchanges.after_nothing hfailed).sendAnswer t q .refused none⟩
  | refused t q hparse hquery hnext =>
      have hasked := changes_consulted hnext
      exact ⟨_, .refused t q hparse hquery, hasked.sendAnswer t q .refused none⟩
  | @deleted next t q hparse hquery hnext hopen =>
      have hchanges := changes_consulted hnext
      have hclosed : Changes e next.closeWindow.2 { closes := true, notices := [.ended] } :=
        hchanges.after_nothing (changes_closeWith _ _ (hchanges.quiet hquiet) hopen)
      rw [isOpen, hchanges.window_eq] at hopen
      exact ⟨_, .deleted t q hparse hquery hopen,
        hclosed.sendAnswer t q .deletionAccepted none⟩

theorem Treated.accounts {outcome : Outcome} {effect : Effect} (h : Treated p e outcome effect)
    (hchanges : Changes e after effect) : outcome.Accounts p e after := by
  cases h with
  | passed hidle => cases outcome <;> first | exact hchanges | cases hidle
  | rejected => exact hchanges
  | heard t device hparse hknown => exact ⟨t, hparse, hknown, hchanges⟩
  | refused t q hparse hquery => exact ⟨t, q, hparse, hquery, hchanges⟩
  | deleted t q hparse hquery hopen => exact ⟨t, q, hparse, hquery, hopen, hchanges⟩
  | learned t hparse _ hsender h => exact ⟨t, hparse, ⟨hsender, hsender ▸ h.unknown⟩, hchanges⟩
  | paired t q hparse hquery h => exact ⟨t, q, hparse, hquery, ⟨rfl, h.unknown⟩, hchanges⟩

theorem accounts_handleTelegram (hquiet : e.Quiet) (hparse : Telegram.ofPacket p = .ok t) :
    (e.handleTelegram tableRegistry p t).1.Accounts p e
      (e.handleTelegram tableRegistry p t).2 := by
  obtain ⟨effect, htreated, hchanges⟩ :=
    treated_of_treatment hquiet (treatment_handleTelegram hparse)
  exact htreated.accounts hchanges

/--
With observers that do not call back, the outcome of a packet accounts for all that changes from the
state behind the expiry check, and a telegram of a known device has the outcome that names it.
-/
theorem handle_accounts (e : Engine DeviceTable) (hquiet : e.Quiet) (p : Packet) :
    let before := (e.expire e.clock).2
    (e.handle tableRegistry p).1.Accounts p before (e.handle tableRegistry p).2 ∧
      ∀ t device, Telegram.ofPacket p = .ok t → before.registry.find? t.sender = some device →
        (e.handle tableRegistry p).1 = .registered device := by
  intro before
  have hbefore : before.Quiet := quiet_expire hquiet e.clock
  unfold handle
  split
  case h_1 hparse => exact ⟨changes_refl before, fun _ _ h => nomatch hparse.symm.trans h⟩
  case h_2 hparse => exact ⟨changes_note before _, fun _ _ h => nomatch hparse.symm.trans h⟩
  case h_3 t hparse =>
    refine ⟨accounts_handleTelegram hbefore hparse, fun t' device ht' hfound => ?_⟩
    cases hparse.symm.trans ht'
    change (before.handleTelegram tableRegistry p t).1 = .registered device
    rw [handleTelegram, lookup_tableRegistry, hfound]

theorem handle_accounts_rocker_switch :
    let sender : Address := ⟨0x01, 0x80, 0x2A, 0x3B⟩
    let e : Engine DeviceTable :=
      { registry := {}
        state := ⟨some (Instant.after 0 (Span.ofSeconds 60)), some ⟨sender, Profile.contact⟩⟩
        observers := [.recorder "panel"] }
    let p := Packet.sealed .radio [0xF6, 0x30, 0x01, 0x80, 0x2A, 0x3B, 0x30] []
    let device : Device := ⟨sender, unknownManufacturer, Profile.contact⟩
    e.Quiet ∧ (e.handle tableRegistry p).1 = .learned device ∧
      (Outcome.learned device).Accounts p e (e.handle tableRegistry p).2 := by
  intro sender e p device
  have hquiet : e.Quiet := by
    intro observer hmem notice
    cases List.mem_singleton.mp hmem
    rfl
  have hlearned : (e.handle tableRegistry p).1 = .learned device := rfl
  have haccounts := (handle_accounts e hquiet p).1
  rw [hlearned] at haccounts
  exact ⟨hquiet, hlearned, haccounts⟩

end Engine

end Esp3Host.TeachIn
