import Esp3Host.TeachIn.Engine

/-!
# What happens aside

While observers are told something, whatever they call, the engine makes entries in its journal and
opens and closes its window.  It does nothing else.
-/

namespace Esp3Host.TeachIn.Engine

variable {σ : Type}

/-- The second engine is the first one after entries and changes of the window. -/
inductive Aside (e : Engine σ) : Engine σ → Prop
  | refl : Aside e e
  | record {next : Engine σ} (h : Aside e next) (entry : Entry) : Aside e (next.record entry)
  | turned {next : Engine σ} (h : Aside e next) (state : State) : Aside e { next with state }

namespace Aside

variable {a b c : Engine σ}

theorem trans (hfirst : Aside a b) (hsecond : Aside b c) : Aside a c := by
  induction hsecond with
  | refl => exact hfirst
  | record _ entry ih => exact .record ih entry
  | turned _ state ih => exact .turned ih state

theorem note (h : Aside a b) (n : Note) : Aside a (b.note n) := .record h (.note n)

theorem foldl {α : Type} {f : Engine σ → α → Engine σ} (h : ∀ e item, Aside e (f e item))
    (e : Engine σ) (items : List α) : Aside e (items.foldl f e) := by
  induction items generalizing e with
  | nil => exact .refl
  | cons item rest ih => exact (h e item).trans (ih (f e item))

theorem registry_eq (h : Aside a b) : b.registry = a.registry := by
  induction h with
  | refl => rfl
  | record _ _ ih | turned _ _ ih => exact ih

theorem observers_eq (h : Aside a b) : b.observers = a.observers := by
  induction h with
  | refl => rfl
  | record _ _ ih | turned _ _ ih => exact ih

theorem link_eq (h : Aside a b) : b.link = { a.link with journal := b.link.journal } := by
  induction h with
  | refl => rfl
  | turned _ _ ih => exact ih
  | @record next _ entry ih =>
      change next.link.record entry = _
      rw [ih]
      rfl

end Aside

/-! ## Calls of observers -/

def Asides (perform : Performer σ) : Prop := ∀ call (e : Engine σ), Aside e (perform call e).2

variable {perform : Performer σ}

theorem aside_answerCall (h : Asides perform) (observer : Observer) (e : Engine σ)
    (decide : Decision) : Aside e (answerCall perform observer e decide) := by
  unfold answerCall
  split
  · exact .refl
  · rename_i call _
    dsimp only
    split
    · exact .record (h call e) _
    · exact h call e

theorem aside_tell (h : Asides perform) (notice : Notice) (e : Engine σ) (observer : Observer) :
    Aside e (tell perform notice e observer) := by
  apply Aside.trans _ (Aside.foldl (aside_answerCall h observer) _ _)
  split
  · exact .record .refl _
  · exact .refl

theorem aside_announce (h : Asides perform) (notice : Notice) (e : Engine σ) :
    Aside e (announce perform notice e) :=
  Aside.foldl (aside_tell h notice) e e.observers

theorem aside_openWith (h : Asides perform) (length : Span) (target : Option Target)
    (e : Engine σ) : Aside e (openWith perform length target e).2 := by
  unfold openWith
  split
  · exact .note .refl _
  · apply Aside.trans _ (aside_announce h .started _)
    apply Aside.note
    apply Aside.turned
    split
    · exact .note .refl _
    · exact .refl

theorem aside_closeWith (h : Asides perform) (reason : Note) (e : Engine σ) :
    Aside e (closeWith perform reason e).2 := by
  unfold closeWith
  split
  · apply Aside.trans _ (aside_announce h .ended _)
    exact .note (.turned .refl {}) reason
  · exact .refl

theorem asides_performTo (depth : Nat) : Asides (performTo depth : Performer σ) := by
  -- The calls that observers make are performed one level further down.
  induction depth with
  | zero =>
      intro call e
      exact .refl
  | succ depth ih =>
      intro call e
      cases call with
      | openWindow length target => exact aside_openWith ih length target e
      | closeWindow => exact aside_closeWith ih .windowClosed e

theorem aside_performAll (e : Engine σ) (calls : List WindowCall) :
    Aside e (e.performAll calls) :=
  Aside.foldl (fun e call => asides_performTo (e.nesting + 1) call e) e calls

theorem aside_notify (e : Engine σ) (notice : Notice) : Aside e (e.notify notice) :=
  aside_announce (asides_performTo e.nesting) notice e

theorem aside_expire (e : Engine σ) (now : Instant) : Aside e (e.expire now).2 := by
  unfold expire
  split
  · split
    · exact aside_closeWith (asides_performTo e.nesting) .windowExpired e
    · exact .refl
  · exact .refl

end Esp3Host.TeachIn.Engine
