import Esp3Host.Proofs.TeachIn.Outcome
import Esp3Host.Proofs.TeachIn.Runs

/-!
# Operations with observers that keep quiet

Over a device table and with observers that do not call back, every operation has an effect that can
be told in advance: a window is opened or closed, or a packet does one of the few things that
`Treated` lists.
-/

namespace Esp3Host.TeachIn

namespace Engine

variable {e next after : Engine DeviceTable}

theorem Quiet.of_observers (h : e.Quiet) (hsame : next.observers = e.observers) : next.Quiet := by
  intro observer hmem
  exact h observer (hsame ▸ hmem)

/-! ## What an operation returns -/

/-- A window may have been closed; whether it was is what the operation returns. -/
inductive Ceased (e : Engine DeviceTable) : Bool × Engine DeviceTable → Prop
  | stays {after : Engine DeviceTable} (h : Changes e after {}) : Ceased e (false, after)
  | ended {after : Engine DeviceTable} (hopen : e.isOpen = true)
      (h : Changes e after { closes := true, notices := [.ended] }) : Ceased e (true, after)

theorem Ceased.observers {result : Bool × Engine DeviceTable} (h : Ceased e result) :
    result.2.observers = e.observers := by
  cases h with
  | stays h | ended _ h => exact h.observers

theorem ceased_closeWith (hquiet : e.Quiet) (perform : Performer DeviceTable) (reason : Note) :
    Ceased e (closeWith perform reason e) := by
  cases hopen : e.isOpen with
  | true =>
      have hclosed := changes_closeWith perform reason hquiet hopen
      rw [closeWith, if_pos hopen] at hclosed ⊢
      exact .ended hopen hclosed
  | false =>
      rw [closeWith, if_neg (by simp [hopen])]
      exact .stays (changes_refl e)

theorem ceased_closeWindow (hquiet : e.Quiet) : Ceased e e.closeWindow :=
  ceased_closeWith hquiet (performTo e.nesting) .windowClosed

theorem ceased_expire (hquiet : e.Quiet) (now : Instant) : Ceased e (e.expire now) := by
  unfold expire
  split
  · split
    · exact ceased_closeWith hquiet _ _
    · exact .stays (changes_refl e)
  · exact .stays (changes_refl e)

inductive Opened (target : Option Target) (e : Engine DeviceTable) :
    Bool × Engine DeviceTable → Prop
  | stays {after : Engine DeviceTable} (hopen : e.isOpen = true) (h : Changes e after {}) :
      Opened target e (false, after)
  | started {after : Engine DeviceTable} (deadline : Instant) (hclosed : e.isOpen = false)
      (h : Changes { e with state := ⟨some deadline, target⟩ } after { notices := [.started] }) :
      Opened target e (true, after)

theorem opened_openWindow (hquiet : e.Quiet) (length : Span) (target : Option Target) :
    Opened target e (e.openWindow length target) := by
  unfold openWindow perform performTo openWith
  cases hopen : e.isOpen with
  | true => exact .stays hopen (changes_note e .alreadyOpen)
  | false =>
      let opened : Engine DeviceTable :=
        { e with state := ⟨some (e.clock.after (min length Window.maxLength)), target⟩ }
      have hannounce : ∀ {next}, Changes opened next {} →
          Changes opened (announce (performTo e.nesting) .started next)
            { notices := [.started] } :=
        fun hnext => hnext.trans (changes_announce _ (hnext.quiet hquiet) .started)
      refine .started _ hopen (hannounce ?_)
      split
      · exact (changes_note opened _).note _
      · exact changes_note opened _

inductive Operated (e : Engine DeviceTable) : Operation → Engine DeviceTable → Prop
  | opened {after : Engine DeviceTable} {done : Bool} (length target)
      (h : Opened target e (done, after)) : Operated e (.openWindow length target) after
  | closed {after : Engine DeviceTable} {done : Bool} (h : Ceased e (done, after)) :
      Operated e .closeWindow after
  | expired {after : Engine DeviceTable} {done : Bool} (deadline) (h : Ceased e (done, after)) :
      Operated e (.expire deadline) after
  | handled {begun after : Engine DeviceTable} {done : Bool} {outcome : Outcome}
      {effect : Effect} (p)
      (h : Ceased e (done, begun)) (htreated : Treated p begun outcome effect)
      (hchanges : Changes begun after effect) : Operated e (.handle p) after

theorem operated_operate (hquiet : e.Quiet) (now : Instant) (operation : Operation) :
    Operated { e with clock := now } operation (e.operate tableRegistry now operation) := by
  have hquiet : ({ e with clock := now } : Engine DeviceTable).Quiet := hquiet
  cases operation with
  | openWindow length target => exact .opened length target (opened_openWindow hquiet length target)
  | closeWindow => exact .closed (ceased_closeWindow hquiet)
  | expire deadline => exact .expired deadline (ceased_expire hquiet deadline)
  | handle p =>
      obtain ⟨effect, htreated, hchanges⟩ :=
        treated_of_treatment (quiet_expire hquiet now) (treatment_handle tableRegistry p _)
      exact .handled p (ceased_expire hquiet now) htreated hchanges

theorem Operated.observers {operation : Operation} (h : Operated e operation after) :
    after.observers = e.observers := by
  cases h with
  | opened length target h =>
      cases h with
      | stays _ h | started _ _ h => exact h.observers
  | closed h | expired _ h => exact h.observers
  | handled p h htreated hchanges => exact hchanges.observers.trans h.observers

theorem observers_operate (hquiet : e.Quiet) (now : Instant) (operation : Operation) :
    (e.operate tableRegistry now operation).observers = e.observers :=
  (operated_operate hquiet now operation).observers

theorem observers_run (hquiet : e.Quiet) (operations : List (Instant × Operation)) :
    (e.run tableRegistry operations).observers = e.observers := by
  induction operations generalizing e with
  | nil => rfl
  | cons step rest ih =>
      obtain ⟨now, operation⟩ := step
      have hobservers := observers_operate hquiet now operation
      exact (ih (hquiet.of_observers hobservers)).trans hobservers

end Engine

end Esp3Host.TeachIn
