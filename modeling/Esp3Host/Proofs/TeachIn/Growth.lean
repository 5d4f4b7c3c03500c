import Esp3Host.Proofs.Link.Growth
import Esp3Host.Proofs.TeachIn.Asides
import Esp3Host.Proofs.TeachIn.Treatment

/-!
# Teach-in and the link

Whatever registries and observers do, the teach-in engine works on its link only by making entries
and by queueing packets.  A packet does so in each of the ways that it can take.
-/

namespace Esp3Host.TeachIn.Engine

variable {σ : Type}

/-! ## Opening and closing -/

theorem Aside.grown {e next : Engine σ} (h : Aside e next) : e.link.Grown next.link := by
  induction h with
  | refl => exact .refl
  | record _ entry ih => exact .record ih entry
  | turned _ _ ih => exact ih

theorem grown_note (e : Engine σ) (n : Note) : e.link.Grown (e.note n).link := .note .refl n

theorem grown_performAll (e : Engine σ) (calls : List WindowCall) :
    e.link.Grown (e.performAll calls).link := by
  apply Link.Grown.foldl
  intro e call
  exact (asides_performTo (e.nesting + 1) call e).grown

theorem grown_notify (e : Engine σ) (notice : Notice) : e.link.Grown (e.notify notice).link :=
  (aside_notify e notice).grown

theorem grown_expire (e : Engine σ) (now : Instant) : e.link.Grown (e.expire now).2.link :=
  (aside_expire e now).grown

/-! ## Handling packets -/

variable {reg : Registry σ} {e next last : Engine σ}

theorem grown_create {device : Device} {result : Except DeviceError Device}
    (h : e.create reg device = (result, next)) : e.link.Grown next.link := by
  obtain rfl : (e.create reg device).2 = next := by rw [h]
  exact Link.Grown.foldl (fun e n => grown_note e (.registry n))
    { e with registry := (reg.create e.registry device).2.2 } (reg.create e.registry device).2.1

theorem grown_consulted (h : Consulted reg e next) : e.link.Grown next.link := by
  induction h with
  | refl => exact .refl
  | note _ n _ ih => exact .note ih n
  | @lookup next _ address ih =>
      exact ih.trans (grown_performAll
        { next with registry := (reg.lookup next.registry address).next } _)
  | @supports next _ profile ih =>
      exact ih.trans (grown_performAll
        { next with registry := (reg.supports next.registry profile).next } _)

theorem grown_enrolment {t : Telegram} {manufacturer : Nat} {profile : Profile}
    {registration : Registration} (h : Enrolment reg t manufacturer profile e registration last) :
    e.link.Grown last.link := by
  cases h with
  | closed => exact .note .refl _
  | failed _ hcreate => exact .note (grown_create hcreate) _
  | @joined entered device _ _ hcreate =>
      have hlearned := (grown_create hcreate).note (.learned t.sender profile t.kind)
      exact hlearned.trans (grown_notify (entered.note _) (.found device))
  | @completed entered device _ _ hcreate =>
      have hlearned := (grown_create hcreate).note (.learned t.sender profile t.kind)
      have hfound := hlearned.trans
        (grown_notify ({ entered with state := {} }.note _) (.found device))
      apply Link.Grown.trans _ (grown_notify _ .ended)
      exact hfound.note .windowClosed

theorem grown_sendAnswer (t : Telegram) (q : Query) (code : AnswerCode) (device : Option Device)
    (e : Engine σ) : e.link.Grown (e.sendAnswer t q code device).2.link :=
  .send .refl _ _

theorem grown_treatment {p : Packet} {outcome : Outcome} (h : Treatment reg p e outcome last) :
    e.link.Grown last.link := by
  cases h with
  | dismissed _ hnext => exact grown_consulted hnext
  | heard t => exact (grown_consulted (.lookup .refl t.sender)).trans (grown_notify _ _)
  | tried _ _ _ _ _ hnext h | missed _ _ _ _ hnext h =>
      exact (grown_consulted hnext).trans (grown_enrolment h)
  | paired _ _ _ _ hnext h | failed _ _ _ _ hnext h =>
      have hregistered := (grown_consulted hnext).trans (grown_enrolment h)
      exact hregistered.trans (grown_sendAnswer ..)
  | refused _ _ _ _ hnext => exact (grown_consulted hnext).trans (grown_sendAnswer ..)
  | @deleted next _ _ _ _ hnext =>
      have hclosed : next.link.Grown next.closeWindow.2.link :=
        (asides_performTo _ .closeWindow next).grown
      exact ((grown_consulted hnext).trans hclosed).trans (grown_sendAnswer ..)

theorem grown_handle (reg : Registry σ) (p : Packet) (e : Engine σ) :
    e.link.Grown (e.handle reg p).2.link :=
  (grown_expire e e.clock).trans (grown_treatment (treatment_handle reg p e))

end Esp3Host.TeachIn.Engine
