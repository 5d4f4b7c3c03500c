import Esp3Host.Proofs.TeachIn.Asides
import Esp3Host.Proofs.TeachIn.Treatment

/-!
# Registries that remember what they were asked to create

`Registry.recorded` is a registry that also keeps the devices it was asked to create, each with what
came of it.  The engine works with it as with the original one: forgetting the record commutes with
everything an engine does.
-/

namespace Esp3Host.TeachIn

structure Creation where
  device : Device
  result : Except DeviceError Device

def Creation.created? (creation : Creation) : Option Device := creation.result.toOption

/-- The state of a registry, and all that it was asked to create. -/
structure Recorded (σ : Type) where
  state : σ
  creations : List Creation := []

variable {σ : Type}

def Registry.recorded (reg : Registry σ) : Registry (Recorded σ) where
  lookup r address :=
    let c := reg.lookup r.state address
    ⟨c.answer, c.calls, { r with state := c.next }⟩
  supports r profile :=
    let c := reg.supports r.state profile
    ⟨c.answer, c.calls, { r with state := c.next }⟩
  create r device :=
    let (result, notes, state) := reg.create r.state device
    (result, notes, { state, creations := r.creations ++ [⟨device, result⟩] })

namespace Engine

def recorded (e : Engine σ) : Engine (Recorded σ) :=
  { registry := ⟨e.registry, []⟩, state := e.state, observers := e.observers, link := e.link,
    clock := e.clock, nesting := e.nesting }

def forget (e : Engine (Recorded σ)) : Engine σ :=
  { registry := e.registry.state, state := e.state, observers := e.observers, link := e.link,
    clock := e.clock, nesting := e.nesting }

/-- What the registry is asked to create while a packet is handled. -/
def creations (reg : Registry σ) (p : Packet) (e : Engine σ) : List Creation :=
  (e.recorded.handle reg.recorded p).2.registry.creations

/-! ## Forgetting the record -/

def forgetIn {α : Type} : α × Engine (Recorded σ) → α × Engine σ := Prod.map id forget

@[simp] theorem forgetIn_fst {α : Type} (result : α × Engine (Recorded σ)) :
    (forgetIn result).1 = result.1 := rfl

@[simp] theorem forgetIn_snd {α : Type} (result : α × Engine (Recorded σ)) :
    (forgetIn result).2 = result.2.forget := rfl

theorem forgetIn_mk {α : Type} (a : α) (e : Engine (Recorded σ)) :
    forgetIn (a, e) = (a, e.forget) := rfl

theorem forget_note (e : Engine (Recorded σ)) (n : Note) :
    (e.note n).forget = e.forget.note n := rfl

def Forgets (perform : Performer (Recorded σ)) (plain : Performer σ) : Prop :=
  ∀ call e, plain call e.forget = forgetIn (perform call e)

section

variable {perform : Performer (Recorded σ)} {plain : Performer σ}

theorem forget_answerCall (h : Forgets perform plain) (observer : Observer)
    (e : Engine (Recorded σ)) (decide : Decision) :
    answerCall plain observer e.forget decide = (answerCall perform observer e decide).forget := by
  have hjournal : e.forget.link.journal = e.link.journal := rfl
  unfold answerCall
  rw [hjournal]
  split
  case h_1 => rfl
  case h_2 call _ =>
    rw [h call e]
    dsimp only [forgetIn_fst, forgetIn_snd]
    split <;> rfl

theorem forget_tell (h : Forgets perform plain) (notice : Notice) (e : Engine (Recorded σ))
    (observer : Observer) :
    tell plain notice e.forget observer = (tell perform notice e observer).forget := by
  unfold tell answerCalls
  rw [← List.foldl_hom forget (forget_answerCall h observer)]
  cases observer.recorded <;> rfl

theorem forget_announce (h : Forgets perform plain) (notice : Notice) (e : Engine (Recorded σ)) :
    announce plain notice e.forget = (announce perform notice e).forget :=
  List.foldl_hom forget (forget_tell h notice)

theorem forget_openWith (h : Forgets perform plain) (length : Span) (target : Option Target)
    (e : Engine (Recorded σ)) :
    openWith plain length target e.forget = forgetIn (openWith perform length target e) := by
  have hopen : e.forget.isOpen = e.isOpen := rfl
  unfold openWith
  rw [hopen]
  split
  · rfl
  · rw [forgetIn_mk, ← forget_announce h]
    split <;> rfl

theorem forget_closeWith (h : Forgets perform plain) (reason : Note) (e : Engine (Recorded σ)) :
    closeWith plain reason e.forget = forgetIn (closeWith perform reason e) := by
  have hopen : e.forget.isOpen = e.isOpen := rfl
  unfold closeWith
  rw [hopen]
  split
  · rw [forgetIn_mk, ← forget_announce h]
    rfl
  · rfl

theorem forgets_performTo (depth : Nat) :
    Forgets (performTo depth : Performer (Recorded σ)) (performTo depth) := by
  induction depth with
  | zero => exact fun _ _ => rfl
  | succ depth ih =>
      rintro (⟨length, target⟩ | _) e
      · exact forget_openWith ih length target e
      · exact forget_closeWith ih .windowClosed e

end

theorem forget_perform (call : WindowCall) (e : Engine (Recorded σ)) :
    perform call e.forget = forgetIn (perform call e) :=
  forgets_performTo (e.nesting + 1) call e

theorem forget_performAll (e : Engine (Recorded σ)) (calls : List WindowCall) :
    e.forget.performAll calls = (e.performAll calls).forget := by
  apply List.foldl_hom forget
  intro e call
  rw [forget_perform, forgetIn_snd]

theorem forget_notify (e : Engine (Recorded σ)) (notice : Notice) :
    e.forget.notify notice = (e.notify notice).forget :=
  forget_announce (forgets_performTo e.nesting) notice e

theorem forget_closeWindow (e : Engine (Recorded σ)) :
    e.forget.closeWindow = forgetIn e.closeWindow :=
  forget_perform .closeWindow e

theorem forget_expire (e : Engine (Recorded σ)) (now : Instant) :
    e.forget.expire now = forgetIn (e.expire now) := by
  have hwindow : e.forget.window = e.window := rfl
  unfold expire
  rw [hwindow]
  split
  · split
    · exact forget_closeWith (forgets_performTo e.nesting) .windowExpired e
    · rfl
  · rfl

variable (reg : Registry σ)

theorem forget_lookup (address : Address) (e : Engine (Recorded σ)) :
    e.forget.lookup reg address = forgetIn (e.lookup reg.recorded address) := by
  unfold lookup
  rw [forgetIn_mk, ← forget_performAll]
  rfl

theorem forget_supports (profile : Profile) (e : Engine (Recorded σ)) :
    e.forget.supports reg profile = forgetIn (e.supports reg.recorded profile) := by
  unfold supports
  rw [forgetIn_mk, ← forget_performAll]
  rfl

theorem forget_create (device : Device) (e : Engine (Recorded σ)) :
    e.forget.create reg device = forgetIn (e.create reg.recorded device) := by
  unfold create
  have hnotes (notes : List DeviceNote) (start : Engine (Recorded σ)) :
      notes.foldl (fun e n => e.note (.registry n)) start.forget =
        (notes.foldl (fun e n => e.note (.registry n)) start).forget :=
    List.foldl_hom forget fun _ _ => rfl
  rw [forgetIn_mk, ← hnotes]
  rfl

theorem forget_register (t : Telegram) (manufacturer : Nat) (profile : Profile)
    (e : Engine (Recorded σ)) :
    e.forget.register reg t manufacturer profile =
      forgetIn (e.register reg.recorded t manufacturer profile) := by
  have hwindow : e.forget.window = e.window := rfl
  unfold register
  rw [hwindow]
  cases e.window with
  | none => rfl
  | some w =>
      dsimp only
      rw [forget_create reg]
      generalize e.create reg.recorded ⟨t.sender, manufacturer, profile⟩ = made
      obtain ⟨cause | device, next⟩ := made <;> simp only [forgetIn_mk] <;> split
      · rfl
      · rfl
      · rfl
      · split <;> simp only [forgetIn_mk, ← forget_notify, forget_note]
        rfl

theorem forget_learn (t : Telegram) (manufacturer : Nat) (profile : Profile)
    (e : Engine (Recorded σ)) :
    e.forget.learn reg t manufacturer profile =
      forgetIn (e.learn reg.recorded t manufacturer profile) := by
  unfold learn
  rw [forget_register reg]
  obtain ⟨_ | _ | _, next⟩ := e.register reg.recorded t manufacturer profile <;> rfl

theorem forget_handleTeachInQuery (t : Telegram) (q : Query) (e : Engine (Recorded σ)) :
    e.forget.handleTeachInQuery reg t q = forgetIn (e.handleTeachInQuery reg.recorded t q) := by
  unfold handleTeachInQuery
  rw [forget_supports reg]
  obtain ⟨_ | _, asked⟩ := e.supports reg.recorded q.profile
  · rfl
  · simp only [forgetIn_mk]
    rw [forget_register reg]
    obtain ⟨_ | _ | _, next⟩ := asked.register reg.recorded t q.manufacturer q.profile <;> rfl

theorem forget_handleQuery (t : Telegram) (e : Engine (Recorded σ)) :
    e.forget.handleQuery reg t = forgetIn (e.handleQuery reg.recorded t) := by
  unfold handleQuery
  split
  · rfl
  · split
    · rfl
    · split
      · exact forget_handleTeachInQuery reg t _ e
      · rw [forget_closeWindow]
        rfl
      · rfl
      · rfl

theorem forget_handleAdmitted (t : Telegram) (fallback : Option Profile)
    (e : Engine (Recorded σ)) :
    e.forget.handleAdmitted reg t fallback = forgetIn (e.handleAdmitted reg.recorded t fallback) := by
  unfold handleAdmitted
  cases t.kind with
  | universalTeachIn => exact forget_handleQuery reg t e
  | rps => exact forget_learn reg t _ _ e
  | fourByteTeachIn =>
      dsimp only
      split
      · exact forget_learn reg t _ _ e
      · exact forget_learn reg t _ _ e
      · rfl
  | oneByte =>
      dsimp only
      split
      · exact forget_learn reg t _ _ e
      · rfl
  | fourByte | variableLength => rfl

theorem forget_handleUnknown (t : Telegram) (e : Engine (Recorded σ)) :
    e.forget.handleUnknown reg t = forgetIn (e.handleUnknown reg.recorded t) := by
  have hwindow : e.forget.window = e.window := rfl
  unfold handleUnknown
  rw [hwindow]
  split
  · rfl
  · split
    · exact forget_handleAdmitted reg t none e
    · split
      · rfl
      · exact forget_handleAdmitted reg t _ e

theorem forget_handleTelegram (p : Packet) (t : Telegram) (e : Engine (Recorded σ)) :
    e.forget.handleTelegram reg p t = forgetIn (e.handleTelegram reg.recorded p t) := by
  unfold handleTelegram
  rw [forget_lookup reg]
  obtain ⟨_ | device, asked⟩ := e.lookup reg.recorded t.sender
  · exact forget_handleUnknown reg t asked
  · simp only [forgetIn_mk, ← forget_notify]

theorem forget_handle (p : Packet) (e : Engine (Recorded σ)) :
    e.forget.handle reg p = forgetIn (e.handle reg.recorded p) := by
  have hclock : e.forget.clock = e.clock := rfl
  unfold handle
  rw [hclock, forget_expire]
  split
  · rfl
  · rfl
  · exact forget_handleTelegram reg p _ _

theorem handle_recorded (p : Packet) (e : Engine σ) :
    e.handle reg p = forgetIn (e.recorded.handle reg.recorded p) :=
  forget_handle reg p e.recorded

end Engine

end Esp3Host.TeachIn
