import Esp3Host.Proofs.TeachIn.Turns

/-!
# The ways of a packet through the engine

`Enrolment` lists what can come of the attempt to register a device, `Treatment` what can come of a
packet behind the expiry check, for every registry and every set of observers: the outcome, and the
engine after it as a row of its own operations.  The registry is consulted first, and what it calls
meanwhile has taken effect before anything is decided.
-/

namespace Esp3Host.TeachIn

def Outcome.isIdle : Outcome → Bool
  | ignored | notLearning | notTarget | notTeachIn | noProfile => true
  | registered _ | learned _ | rejected | answered _ _ => false

def Registration.outcome : Registration → Outcome
  | created device => .learned device
  | closed => .notLearning
  | failed => .rejected

def Outcome.created? : Outcome → Option Device
  | learned device => some device
  | answered _ device => device
  | _ => none

def Window.isTargeted (w : Window) : Bool := w.target.isSome

def Engine.isTargeted {σ : Type} (e : Engine σ) : Bool := e.window.any Window.isTargeted

namespace Engine

variable {σ : Type} (reg : Registry σ) (p : Packet)

/-! ## Registering -/

theorem isOpen_of_admits {e : Engine σ} {sender : Address} (h : e.admits sender = true) :
    e.isOpen = true := by
  cases hwindow : e.window <;> simp [admits, hwindow, isOpen] at h ⊢

/-- What follows when the target of a window was created and the window closed. -/
def concluded (t : Telegram) (profile : Profile) (device : Device) (e : Engine σ) : Engine σ :=
  (((e.note (.learned t.sender profile t.kind)).notify (.found device)).note .windowClosed).notify
    .ended

inductive Enrolment (t : Telegram) (manufacturer : Nat) (profile : Profile) (e : Engine σ) :
    Registration → Engine σ → Prop
  | closed (hadmits : e.admits t.sender = false) :
      Enrolment t manufacturer profile e .closed (e.note (.closedMeanwhile t.sender))
  | failed {next : Engine σ} {cause : DeviceError} (hadmits : e.admits t.sender = true)
      (hcreate : e.create reg ⟨t.sender, manufacturer, profile⟩ = (.error cause, next)) :
      Enrolment t manufacturer profile e .failed
        (next.note (.learningFailed t.sender profile cause))
  | joined {next : Engine σ} {device : Device} (hadmits : e.admits t.sender = true)
      (htargeted : e.isTargeted = false)
      (hcreate : e.create reg ⟨t.sender, manufacturer, profile⟩ = (.ok device, next)) :
      Enrolment t manufacturer profile e (.created device)
        ((next.note (.learned t.sender profile t.kind)).notify (.found device))
  | completed {next : Engine σ} {device : Device} (hadmits : e.admits t.sender = true)
      (htargeted : e.isTargeted = true)
      (hcreate : e.create reg ⟨t.sender, manufacturer, profile⟩ = (.ok device, next)) :
      Enrolment t manufacturer profile e (.created device)
        ({ next with state := {} }.concluded t profile device)

theorem enrolment_register (t : Telegram) (manufacturer : Nat) (profile : Profile)
    (e : Engine σ) :
    Enrolment reg t manufacturer profile e (e.register reg t manufacturer profile).1
      (e.register reg t manufacturer profile).2 := by
  unfold register
  cases hwindow : e.window with
  | none => exact .closed (by simp [admits, hwindow])
  | some w =>
      have hadmits : e.admits t.sender = w.admits t.sender := by simp [admits, hwindow]
      have htargeted : e.isTargeted = w.target.isSome := by
        simp [isTargeted, Window.isTargeted, hwindow]
      dsimp only
      cases hsender : w.admits t.sender with
      | false => exact .closed (hadmits.trans hsender)
      | true =>
          rw [hsender] at hadmits
          simp only [Bool.not_true, Bool.false_eq_true, if_false]
          rcases hcreate : e.create reg ⟨t.sender, manufacturer, profile⟩ with
            ⟨cause | device, next⟩
          · exact .failed hadmits hcreate
          · dsimp only
            rw [← htargeted]
            cases hmode : e.isTargeted with
            | false => exact .joined hadmits hmode hcreate
            | true => exact .completed hadmits hmode hcreate

theorem register_of_enrolment {t : Telegram} {manufacturer : Nat} {profile : Profile}
    {e last : Engine σ} {registration : Registration}
    (h : Enrolment reg t manufacturer profile e registration last) :
    e.register reg t manufacturer profile = (registration, last) := by
  have hwindow (hadmits : e.admits t.sender = true) :
      ∃ w, e.window = some w ∧ w.admits t.sender = true ∧ e.isTargeted = w.target.isSome := by
    cases hwindow : e.window with
    | none => simp [admits, hwindow] at hadmits
    | some w =>
        refine ⟨w, rfl, ?_, ?_⟩
        · simpa [admits, hwindow] using hadmits
        · simp [isTargeted, Window.isTargeted, hwindow]
  unfold register
  cases h with
  | closed hadmits =>
      cases hwindow : e.window with
      | none => rfl
      | some w =>
          have hsender : w.admits t.sender = false := by simpa [admits, hwindow] using hadmits
          simp [hsender]
  | failed hadmits hcreate =>
      obtain ⟨w, hwindow, hsender, -⟩ := hwindow hadmits
      simp [hwindow, hsender, hcreate]
  | joined hadmits htargeted hcreate | completed hadmits htargeted hcreate =>
      obtain ⟨w, hwindow, hsender, hmode⟩ := hwindow hadmits
      have htarget := hmode.symm.trans htargeted
      simp [hwindow, hsender, hcreate, htarget, concluded]

/-! ## Handling packets -/

/-- The second engine is the first one after questions to the registry and notes about them. -/
inductive Consulted (e : Engine σ) : Engine σ → Prop
  | refl : Consulted e e
  | note {next : Engine σ} (h : Consulted e next) (n : Note) (hplain : (Entry.note n).Plain) :
      Consulted e (next.note n)
  | lookup {next : Engine σ} (h : Consulted e next) (address : Address) :
      Consulted e (next.lookup reg address).2
  | supports {next : Engine σ} (h : Consulted e next) (profile : Profile) :
      Consulted e (next.supports reg profile).2

inductive Treatment (e : Engine σ) : Outcome → Engine σ → Prop
  | dismissed {outcome : Outcome} {next : Engine σ} (hidle : outcome.isIdle = true)
      (h : Consulted reg e next) :
      Treatment e outcome next
  | heard (t device) (hparse : Telegram.ofPacket p = .ok t)
      (hknown : (e.lookup reg t.sender).1 = some device) :
      Treatment e (.registered device) ((e.lookup reg t.sender).2.notify (.registered device p))
  | tried {next last : Engine σ} {registration : Registration} (t manufacturer profile)
      (hparse : Telegram.ofPacket p = .ok t) (hkind : t.kind ≠ .universalTeachIn)
      (h : Consulted reg e next)
      (henrolment : Enrolment reg t manufacturer profile next registration last) :
      Treatment e registration.outcome last
  | paired {next last : Engine σ} {device : Device} (t q) (hparse : Telegram.ofPacket p = .ok t)
      (hquery : Query.ofTelegram t = .ok q) (h : Consulted reg e next)
      (henrolment : Enrolment reg t q.manufacturer q.profile next (.created device) last) :
      Treatment e (.answered .success (some device))
        (last.sendAnswer t q .success (some device)).2
  | missed {next last : Engine σ} (t q) (hparse : Telegram.ofPacket p = .ok t)
      (hquery : Query.ofTelegram t = .ok q) (h : Consulted reg e next)
      (henrolment : Enrolment reg t q.manufacturer q.profile next .closed last) :
      Treatment e .notLearning last
  | failed {next last : Engine σ} (t q) (hparse : Telegram.ofPacket p = .ok t)
      (hquery : Query.ofTelegram t = .ok q) (h : Consulted reg e next)
      (henrolment : Enrolment reg t q.manufacturer q.profile next .failed last) :
      Treatment e (.answered .refused none) (last.sendAnswer t q .refused none).2
  | refused {next : Engine σ} (t q) (hparse : Telegram.ofPacket p = .ok t)
      (hquery : Query.ofTelegram t = .ok q) (h : Consulted reg e next) :
      Treatment e (.answered .refused none) (next.sendAnswer t q .refused none).2
  | deleted {next : Engine σ} (t q) (hparse : Telegram.ofPacket p = .ok t)
      (hquery : Query.ofTelegram t = .ok q) (h : Consulted reg e next)
      (hopen : next.isOpen = true) :
      Treatment e (.answered .deletionAccepted none)
        (next.closeWindow.2.sendAnswer t q .deletionAccepted none).2

/--
A packet comes to the registration of a device by an engine in the second state.  Nothing but an
answer follows.
-/
inductive Pairs (begun asked after : Engine σ) (device : Device) : Prop
  | intro {last : Engine σ} (t manufacturer profile) (hparse : Telegram.ofPacket p = .ok t)
      (hasked : Consulted reg begun asked)
      (henrolment : Enrolment reg t manufacturer profile asked (.created device) last)
      (hafter : after = last ∨ ∃ q, after = (last.sendAnswer t q .success (some device)).2)

variable {reg p} {e next : Engine σ} {t : Telegram}

theorem treatment_learn (hparse : Telegram.ofPacket p = .ok t) (hkind : t.kind ≠ .universalTeachIn)
    (h : Consulted reg e next) (manufacturer : Nat) (profile : Profile) :
    Treatment reg p e (next.learn reg t manufacturer profile).1
      (next.learn reg t manufacturer profile).2 := by
  unfold learn
  have henrolment := enrolment_register reg t manufacturer profile next
  generalize next.register reg t manufacturer profile = registered at henrolment ⊢
  obtain ⟨_ | _ | _, last⟩ := registered <;>
    exact .tried t manufacturer profile hparse hkind h henrolment

theorem treatment_handleTeachInQuery (hparse : Telegram.ofPacket p = .ok t) {q : Query}
    (hquery : Query.ofTelegram t = .ok q) (h : Consulted reg e next) :
    Treatment reg p e (next.handleTeachInQuery reg t q).1 (next.handleTeachInQuery reg t q).2 := by
  unfold handleTeachInQuery
  have hasked := h.supports q.profile
  generalize next.supports reg q.profile = answer at hasked ⊢
  obtain ⟨_ | _, asked⟩ := answer
  · exact .refused t q hparse hquery (hasked.note _ fun _ => rfl)
  · dsimp only
    have henrolment := enrolment_register reg t q.manufacturer q.profile asked
    generalize asked.register reg t q.manufacturer q.profile = registered at henrolment ⊢
    obtain ⟨_ | _ | _, last⟩ := registered
    · exact .paired t q hparse hquery hasked henrolment
    · exact .missed t q hparse hquery hasked henrolment
    · exact .failed t q hparse hquery hasked henrolment

theorem treatment_handleQuery (hparse : Telegram.ofPacket p = .ok t) (h : Consulted reg e next)
    (hopen : next.isOpen = true) :
    Treatment reg p e (next.handleQuery reg t).1 (next.handleQuery reg t).2 := by
  unfold handleQuery
  split
  case h_1 => exact .dismissed rfl (h.note _ fun _ => rfl)
  case h_2 q hquery =>
    split
    case isTrue => exact .dismissed rfl (h.note _ fun _ => rfl)
    case isFalse =>
      split
      case h_1 => exact treatment_handleTeachInQuery hparse hquery h
      case h_2 => exact .deleted t q hparse hquery h hopen
      case h_3 | h_4 => exact .refused t q hparse hquery h

theorem treatment_handleAdmitted (hparse : Telegram.ofPacket p = .ok t) (h : Consulted reg e next)
    (hopen : next.isOpen = true) (fallback : Option Profile) :
    Treatment reg p e (next.handleAdmitted reg t fallback).1
      (next.handleAdmitted reg t fallback).2 := by
  unfold handleAdmitted
  cases hkind : t.kind with
  | universalTeachIn => exact treatment_handleQuery hparse h hopen
  | rps => exact treatment_learn hparse (by simp [hkind]) h _ _
  | fourByteTeachIn =>
      dsimp only
      split
      case h_1 | h_2 => exact treatment_learn hparse (by simp [hkind]) h _ _
      case h_3 => exact .dismissed rfl (h.note _ fun _ => rfl)
  | oneByte =>
      dsimp only
      split
      case isTrue => exact treatment_learn hparse (by simp [hkind]) h _ _
      case isFalse => exact .dismissed rfl (h.note _ fun _ => rfl)
  | fourByte | variableLength => exact .dismissed rfl (h.note _ fun _ => rfl)

theorem treatment_handleUnknown (hparse : Telegram.ofPacket p = .ok t) (h : Consulted reg e next) :
    Treatment reg p e (next.handleUnknown reg t).1 (next.handleUnknown reg t).2 := by
  unfold handleUnknown
  cases hwindow : next.window with
  | none => exact .dismissed rfl (h.note _ fun _ => rfl)
  | some w =>
      have hopen : next.isOpen = true := by simp [isOpen, hwindow]
      dsimp only
      split
      case h_1 => exact treatment_handleAdmitted hparse h hopen none
      case h_2 target htarget =>
        split
        case isTrue => exact .dismissed rfl (h.note _ fun _ => rfl)
        case isFalse => exact treatment_handleAdmitted hparse h hopen (some target.profile)

theorem treatment_handleTelegram (hparse : Telegram.ofPacket p = .ok t) :
    Treatment reg p e (e.handleTelegram reg p t).1 (e.handleTelegram reg p t).2 := by
  unfold handleTelegram
  rcases hlookup : e.lookup reg t.sender with ⟨_ | device, asked⟩
  · have hasked : Consulted reg e (e.lookup reg t.sender).2 := .lookup .refl t.sender
    rw [hlookup] at hasked
    exact treatment_handleUnknown hparse hasked
  · have hheard := Treatment.heard t device hparse (congrArg Prod.fst hlookup)
    rwa [hlookup] at hheard

theorem treatment_handle (reg : Registry σ) (p : Packet) (e : Engine σ) :
    Treatment reg p (e.expire e.clock).2 (e.handle reg p).1 (e.handle reg p).2 := by
  unfold handle
  split
  case h_1 => exact .dismissed rfl .refl
  case h_2 => exact .dismissed rfl (.note .refl _ fun _ => rfl)
  case h_3 hparse => exact treatment_handleTelegram hparse

end Engine

end Esp3Host.TeachIn
