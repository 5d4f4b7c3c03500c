import Esp3Host.Proofs.TeachIn.Finds
import Esp3Host.Proofs.TeachIn.Recorded

/-!
# Who is let in

Whatever the registry calls while it is asked, the engine looks at the window once more right before
it asks for a device to be created.  It does so once for a packet at most, and what it tells
observers, reports and answers agrees with what came of it.
-/

namespace Esp3Host.TeachIn

variable {σ : Type}

/--
The sender of a telegram was to be created while the window admitted it, and registering it led from
one engine to the other.  If it was the target and was created, everything after that goes out from
a closed window.
-/
structure Creation.Admitted (reg : Registry σ) (t : Telegram) (creation : Creation)
    (asked last : Engine σ) : Prop where
  sender : creation.device.address = t.sender
  admits : asked.admits t.sender = true
  result : (asked.create reg creation.device).1 = creation.result
  registered : last =
    (asked.register reg t creation.device.manufacturer creation.device.profile).2
  ended : ∀ device, asked.isTargeted = true → creation.result = .ok device →
    last = { (asked.create reg creation.device).2 with state := {} }.concluded t
      creation.device.profile device

def succeeded (creations : List Creation) : List Device := creations.filterMap Creation.created?

def Outcome.isAnswer : Outcome → Bool
  | answered _ _ => true
  | _ => false

theorem Outcome.idle_facts {outcome : Outcome} (h : outcome.isIdle = true) :
    outcome.created? = none ∧ outcome.isAnswer = false := by
  cases outcome <;> first | exact ⟨rfl, rfl⟩ | cases h

theorem Outcome.created?_eq_some_iff {outcome : Outcome} (h : outcome.isAnswer = false)
    {device : Device} :
    outcome.created? = some device ↔
      outcome = .learned device ∨ outcome = .answered .success (some device) := by
  cases outcome <;> simp_all [created?, isAnswer]

namespace Engine

variable {reg : Registry σ} {p : Packet}

/-! ## The record of creations -/

section

variable {a b : Engine (Recorded σ)} {t : Telegram} {manufacturer : Nat} {profile : Profile}
  {registration : Registration}

theorem creations_lookup (address : Address) (e : Engine (Recorded σ)) :
    (e.lookup reg.recorded address).2.registry.creations = e.registry.creations := by
  rw [lookup, (aside_performAll _ _).registry_eq]
  rfl

theorem creations_supports (profile : Profile) (e : Engine (Recorded σ)) :
    (e.supports reg.recorded profile).2.registry.creations = e.registry.creations := by
  rw [supports, (aside_performAll _ _).registry_eq]
  rfl

theorem creations_consulted (h : Consulted reg.recorded a b) :
    b.registry.creations = a.registry.creations := by
  induction h with
  | refl => rfl
  | note _ n _ ih => exact ih
  | lookup _ address ih => exact (creations_lookup address _).trans ih
  | supports _ profile ih => exact (creations_supports profile _).trans ih

theorem forget_consulted (h : Consulted reg.recorded a b) : Consulted reg a.forget b.forget := by
  induction h with
  | refl => exact .refl
  | note _ n hplain ih => exact ih.note n hplain
  | @lookup next _ address ih =>
      have hasked := ih.lookup address
      rwa [forget_lookup reg] at hasked
  | @supports next _ profile ih =>
      have hasked := ih.supports profile
      rwa [forget_supports reg] at hasked

theorem creations_create (reg : Registry σ) (device : Device) (e : Engine (Recorded σ)) :
    (e.create reg.recorded device).2.registry.creations =
      e.registry.creations ++ [⟨device, (e.forget.create reg device).1⟩] := by
  have hnotes (notes : List DeviceNote) (start : Engine (Recorded σ)) :
      (notes.foldl (fun e n => e.note (.registry n)) start).registry = start.registry :=
    List.foldlRecOn (motive := fun next : Engine (Recorded σ) => next.registry = start.registry)
      _ _ rfl fun _ h _ _ => h
  rw [create, hnotes]
  rfl

theorem admitted_enrolment
    (h : Enrolment reg.recorded t manufacturer profile a registration b) :
    ∃ creations, b.registry.creations = a.registry.creations ++ creations ∧
      creations.length ≤ 1 ∧ succeeded creations = registration.outcome.created?.toList ∧
      ∀ creation ∈ creations, creation.Admitted reg t a.forget b.forget := by
  -- The recording registry asks the plain one and takes down what it is asked and says.
  have hmade {result next} (hcreate : a.create reg.recorded ⟨t.sender, manufacturer, profile⟩ =
      (result, next)) : a.forget.create reg ⟨t.sender, manufacturer, profile⟩ =
        (result, next.forget) ∧
      next.registry.creations =
        a.registry.creations ++ [⟨⟨t.sender, manufacturer, profile⟩, result⟩] := by
    have hplain := forget_create reg ⟨t.sender, manufacturer, profile⟩ a
    have hrecord := creations_create reg ⟨t.sender, manufacturer, profile⟩ a
    rw [hcreate] at hplain hrecord
    rw [hplain] at hrecord
    exact ⟨hplain, hrecord⟩
  have hregistered : b.forget = (a.forget.register reg t manufacturer profile).2 := by
    rw [forget_register, register_of_enrolment _ h, forgetIn_snd]
  cases h with
  | closed => exact ⟨[], (List.append_nil _).symm, by decide, rfl, nofun⟩
  | failed hadmits hcreate =>
      obtain ⟨hplain, hrecord⟩ := hmade hcreate
      refine ⟨_, hrecord, Nat.le_refl 1, rfl, ?_⟩
      simp only [List.mem_singleton, forall_eq]
      exact ⟨rfl, hadmits, congrArg Prod.fst hplain, hregistered, nofun⟩
  | @joined next device hadmits htargeted hcreate =>
      obtain ⟨hplain, hrecord⟩ := hmade hcreate
      have hregistry := (aside_notify (next.note (.learned t.sender profile t.kind))
        (.found device)).registry_eq
      refine ⟨_, (congrArg Recorded.creations hregistry).trans hrecord, Nat.le_refl 1, rfl, ?_⟩
      simp only [List.mem_singleton, forall_eq]
      exact ⟨rfl, hadmits, congrArg Prod.fst hplain, hregistered,
        fun _ hmode => nomatch hmode.symm.trans htargeted⟩
  | @completed next device hadmits htargeted hcreate =>
      obtain ⟨hplain, hrecord⟩ := hmade hcreate
      have hregistry : (concluded t profile device { next with state := {} }).registry =
          next.registry :=
        (aside_notify _ _).registry_eq.trans (aside_notify _ _).registry_eq
      refine ⟨_, (congrArg Recorded.creations hregistry).trans hrecord, Nat.le_refl 1, rfl, ?_⟩
      simp only [List.mem_singleton, forall_eq]
      refine ⟨rfl, hadmits, congrArg Prod.fst hplain, hregistered, ?_⟩
      rintro _ - ⟨⟩
      rw [hplain, concluded, ← forget_notify, forget_note, ← forget_notify, forget_note]
      rfl

end

/-! ## What a packet comes to -/

/-- What the creations of an engine amount to, up to the answer to a query. -/
structure Registers (reg : Registry σ) (p : Packet) (begun : Engine σ)
    (creations : List Creation) (last : Engine σ) : Prop where
  once : creations.length ≤ 1
  yields : Yields begun last (succeeded creations)
  admitted : ∀ creation ∈ creations, ∃ t asked, Telegram.ofPacket p = .ok t ∧
    Consulted reg begun asked ∧ creation.Admitted reg t asked last

inductive Settled (reg : Registry σ) (p : Packet) (begun : Engine σ) (creations : List Creation) :
    Outcome → Engine σ → Prop
  | silent {outcome : Outcome} {last : Engine σ} (h : Registers reg p begun creations last)
      (hcreated : outcome.created?.toList = succeeded creations)
      (hsilent : outcome.isAnswer = false) :
      Settled reg p begun creations outcome last
  | answered {last : Engine σ} (t q code device) (hparse : Telegram.ofPacket p = .ok t)
      (h : Registers reg p begun creations last)
      (hcreated : Option.toList device = succeeded creations)
      (hcode : code = .success ↔ device.isSome = true) :
      Settled reg p begun creations (.answered code device) (last.sendAnswer t q code device).2

theorem Yields.forget {a b : Engine (Recorded σ)} {found : List Device} (h : Yields a b found) :
    Yields a.forget b.forget found :=
  ⟨h.observers, h.finds, h.link⟩

theorem registers_nothing (p : Packet) {begun last : Engine (Recorded σ)}
    (hbegun : begun.registry.creations = [])
    (hlast : last.registry.creations = begun.registry.creations) (h : Yields begun last []) :
    Registers reg p begun.forget last.registry.creations last.forget ∧
      succeeded last.registry.creations = [] := by
  rw [hlast, hbegun]
  exact ⟨⟨by simp, h.forget, nofun⟩, rfl⟩

theorem registers_enrolment {begun asked last : Engine (Recorded σ)} {t : Telegram}
    {manufacturer : Nat} {profile : Profile} {registration : Registration}
    (hbegun : begun.registry.creations = []) (hparse : Telegram.ofPacket p = .ok t)
    (hasked : Consulted reg.recorded begun asked)
    (h : Enrolment reg.recorded t manufacturer profile asked registration last) :
    Registers reg p begun.forget last.registry.creations last.forget ∧
      succeeded last.registry.creations = registration.outcome.created?.toList := by
  obtain ⟨creations, hcreations, honce, hsucceeded, hadmitted⟩ := admitted_enrolment h
  rw [creations_consulted hasked, hbegun, List.nil_append] at hcreations
  rw [hcreations]
  refine ⟨⟨honce, ?_, ?_⟩, hsucceeded⟩
  · rw [hsucceeded]
    exact ((yields_consulted hasked).trans (yields_enrolment h)).forget
  · intro creation hmem
    exact ⟨t, asked.forget, hparse, forget_consulted hasked, hadmitted creation hmem⟩

theorem settled_treatment {begun after : Engine (Recorded σ)} {outcome : Outcome}
    (hbegun : begun.registry.creations = [])
    (h : Treatment reg.recorded p begun outcome after) :
    Settled reg p begun.forget after.registry.creations outcome after.forget := by
  cases h with
  | dismissed hidle hnext =>
      obtain ⟨hregisters, hnone⟩ :=
        registers_nothing p hbegun (creations_consulted hnext) (yields_consulted hnext)
      obtain ⟨hcreated, hsilent⟩ := Outcome.idle_facts hidle
      exact .silent hregisters (by rw [hcreated, hnone]; rfl) hsilent
  | heard t device hparse hknown =>
      have hasked : Consulted reg.recorded begun _ := .lookup .refl t.sender
      have hregistry := (aside_notify (begun.lookup reg.recorded t.sender).2
        (.registered device p)).registry_eq
      obtain ⟨hregisters, hnone⟩ := registers_nothing p hbegun
        ((congrArg Recorded.creations hregistry).trans (creations_consulted hasked))
        ((yields_consulted hasked).trans (yields_notify _ rfl))
      exact .silent hregisters hnone.symm rfl
  | tried t manufacturer profile hparse hkind hnext henrolment =>
      obtain ⟨hregisters, hcreated⟩ := registers_enrolment hbegun hparse hnext henrolment
      refine .silent hregisters hcreated.symm ?_
      cases henrolment <;> rfl
  | missed t q hparse hquery hnext henrolment =>
      obtain ⟨hregisters, hcreated⟩ := registers_enrolment hbegun hparse hnext henrolment
      exact .silent hregisters hcreated.symm rfl
  | @paired next last device t q hparse hquery hnext henrolment =>
      obtain ⟨hregisters, hcreated⟩ := registers_enrolment hbegun hparse hnext henrolment
      exact .answered t q .success (some device) hparse hregisters hcreated.symm (by simp)
  | failed t q hparse hquery hnext henrolment =>
      obtain ⟨hregisters, hcreated⟩ := registers_enrolment hbegun hparse hnext henrolment
      exact .answered t q .refused none hparse hregisters hcreated.symm (by simp)
  | refused t q hparse hquery hnext =>
      obtain ⟨hregisters, hnone⟩ :=
        registers_nothing p hbegun (creations_consulted hnext) (yields_consulted hnext)
      exact .answered t q .refused none hparse hregisters hnone.symm (by simp)
  | @deleted next t q hparse hquery hnext hopen =>
      have hregistry := (asides_performTo (next.nesting + 1) .closeWindow next).registry_eq
      obtain ⟨hregisters, hnone⟩ := registers_nothing p hbegun
        ((congrArg Recorded.creations hregistry).trans (creations_consulted hnext))
        ((yields_consulted hnext).trans (yields_performTo _ .closeWindow next))
      exact .answered t q .deletionAccepted none hparse hregisters hnone.symm (by simp)

theorem settled_handle (reg : Registry σ) (p : Packet) (e : Engine σ) :
    Settled reg p (e.expire e.clock).2 (e.creations reg p) (e.handle reg p).1
      (e.handle reg p).2 := by
  -- The record is empty when a packet comes, so all that it holds in the end is due to the packet.
  have hbegun : (e.recorded.expire e.clock).2.registry.creations = [] :=
    congrArg Recorded.creations (aside_expire e.recorded e.clock).registry_eq
  have hsettled := settled_treatment hbegun (treatment_handle reg.recorded p e.recorded)
  have hexpired : e.expire e.clock = forgetIn (e.recorded.expire e.clock) :=
    forget_expire e.recorded e.clock
  rw [hexpired, handle_recorded reg p e]
  exact hsettled

namespace Settled

variable {begun e after : Engine σ} {creations : List Creation} {outcome : Outcome}

theorem once (h : Settled reg p begun creations outcome after) : creations.length ≤ 1 := by
  cases h with
  | silent h | answered _ _ _ _ _ h => exact h.once

theorem admitted (h : Settled reg p begun creations outcome after) {creation : Creation}
    (hmem : creation ∈ creations) :
    ∃ t asked last, Telegram.ofPacket p = .ok t ∧ Consulted reg begun asked ∧
      creation.Admitted reg t asked last ∧
      (after = last ∨ ∃ q code device, after = (last.sendAnswer t q code device).2) := by
  cases h with
  | silent h =>
      obtain ⟨t, asked, hparse, hasked, hadmitted⟩ := h.admitted creation hmem
      exact ⟨t, asked, after, hparse, hasked, hadmitted, .inl rfl⟩
  | @answered last t q code device hparse h =>
      obtain ⟨t', asked, hparse', hasked, hadmitted⟩ := h.admitted creation hmem
      cases hparse.symm.trans hparse'
      exact ⟨t, asked, last, hparse, hasked, hadmitted, .inr ⟨q, code, device, rfl⟩⟩

theorem created_iff (h : Settled reg p begun creations outcome after) (device : Device) :
    succeeded creations = [device] ↔
      outcome = .learned device ∨ outcome = .answered .success (some device) := by
  have hlist {x : Option Device} : x.toList = [device] ↔ x = some device := by
    cases x <;> simp
  cases h with
  | silent _ hcreated hsilent =>
      rw [← hcreated, hlist, Outcome.created?_eq_some_iff hsilent]
  | answered t q code answered _ _ hcreated hcode =>
      rw [← hcreated, hlist]
      cases answered <;> simp_all

theorem finds_eq (h : Settled reg p begun creations outcome after) (hbegun : Yields e begun []) :
    after.finds =
      e.finds ++ (succeeded creations).flatMap fun device => e.findsOf (.found device) := by
  cases h with
  | silent h => exact (hbegun.trans h.yields).finds
  | answered t q code device _ h =>
      rw [finds_sendAnswer]
      exact (hbegun.trans h.yields).finds

theorem confirmed_iff (h : Settled reg p begun creations outcome after)
    (hbegun : Yields e begun []) :
    (Step.mk e (.handle p) after).queued.any isConfirmation = true ↔
      ∃ device, outcome = .answered .success (some device) := by
  cases h with
  | silent h hcreated hsilent =>
      rw [(hbegun.trans h.yields).queued_eq]
      cases outcome <;> simp_all [Outcome.isAnswer]
  | answered t q code device _ h hcreated hcode =>
      rw [(hbegun.trans h.yields).queued_sendAnswer]
      cases device <;> simp_all [isConfirmation_answer]

end Settled

/--
For every registry, whatever it calls while it is asked: a packet leads to one creation at most, of
the sender of its telegram, asked for by an engine whose window is open and admits this sender.  A
device was created exactly when the packet is reported as having taught it in, exactly then
observers are told that it was found, and exactly then a query gets the answer of success.  If the
target of a window was created, the window is closed before anything else is done.
-/
theorem creations_admitted (reg : Registry σ) (p : Packet) (e : Engine σ) :
    let begun := (e.expire e.clock).2
    let outcome := (e.handle reg p).1
    let after := (e.handle reg p).2
    let created := succeeded (e.creations reg p)
    let queued := (Step.mk e (.handle p) after).queued
    (e.creations reg p).length ≤ 1 ∧
      (∀ creation ∈ e.creations reg p, ∃ t asked last, Telegram.ofPacket p = .ok t ∧
        Consulted reg begun asked ∧ creation.Admitted reg t asked last ∧
        (after = last ∨ ∃ q code device, after = (last.sendAnswer t q code device).2)) ∧
      (∀ device, created = [device] ↔
        outcome = .learned device ∨ outcome = .answered .success (some device)) ∧
      after.finds = e.finds ++ created.flatMap (fun device => e.findsOf (.found device)) ∧
      (queued.any isConfirmation = true ↔
        ∃ device, outcome = .answered .success (some device)) := by
  intro begun outcome after created queued
  have hsettled : Settled reg p begun (e.creations reg p) outcome after := settled_handle reg p e
  have hbegun : Yields e begun [] := yields_expire e e.clock
  exact ⟨hsettled.once, fun _ => hsettled.admitted, hsettled.created_iff, hsettled.finds_eq hbegun,
    hsettled.confirmed_iff hbegun⟩

end Engine

end Esp3Host.TeachIn
