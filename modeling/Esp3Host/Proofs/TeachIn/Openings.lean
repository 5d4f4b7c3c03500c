import Esp3Host.Proofs.TeachIn.Callbacks

/-!
# Openings and closings

An open window stays as it is while no closing is noted, and while no opening is noted no other
window takes its place.  Between operations the openings that were noted exceed the closings by one
if the window is open, and a window that is not open has no target.
-/

namespace Esp3Host.TeachIn.Engine

variable {σ : Type} {a b c e : Engine σ} {reg : Registry σ} {perform : Performer σ}

theorem Tracks.announce {R : Engine σ → Engine σ → Prop} {Allowed : WindowCall → Prop}
    (h : Tracks (fun _ _ => True) R) (hperform : ∀ call e, Allowed call → R e (perform call e).2)
    {notice : Notice} (hmakes : ∀ observer ∈ e.observers, observer.Makes Allowed notice) :
    R e (announce perform notice e) :=
  h.tellAll hperform (fun _ _ _ => trivial) hmakes e

theorem Tracks.announceAny {R : Engine σ → Engine σ → Prop} (h : Tracks (fun _ _ => True) R)
    (hperform : ∀ call e, R e (perform call e).2) (notice : Notice) (e : Engine σ) :
    R e (Engine.announce perform notice e) :=
  h.announce (fun call e _ => hperform call e) fun observer _ => observer.makes_any notice

theorem Tracks.lasting {R : Engine σ → Engine σ → Prop} (h : Tracks (fun _ _ => True) R)
    (hturned : ∀ {e next isOpen}, Turned e next isOpen → R e next) :
    Lasting (fun _ _ => True) (fun _ => True) R :=
  .of_turns h (fun _ _ _ => trivial) fun _ hperform _ _ _ hturn =>
    h.trans (hturned hturn) (h.announceAny hperform _ _)

namespace Lasting

variable {R : Engine σ → Engine σ → Prop}

theorem announceAny (h : Lasting (fun _ _ => True) (fun _ => True) R) (depth : Nat)
    (notice : Notice) (e : Engine σ) : R e (announce (performTo depth) notice e) :=
  h.toTracks.announceAny (fun call e => h.calling depth call e trivial) notice e

theorem notifyAny (h : Lasting (fun _ _ => True) (fun _ => True) R) (e : Engine σ)
    (notice : Notice) : R e (e.notify notice) :=
  h.announceAny e.nesting notice e

end Lasting

/-! ## What the journal tells -/

/--
An open window stays while no closing is noted, and while no opening is noted it can only be closed.
-/
structure Noted (before after : Engine σ) : Prop where
  turns_le : ∀ isOpen, before.turns isOpen ≤ after.turns isOpen
  stays : before.isOpen = true → after.turns true = before.turns true →
    after.window = before.window
  unopened : after.turns false = before.turns false →
    after.window = before.window ∨ after.window = none

namespace Noted

theorem of_window (hwindow : b.window = a.window)
    (hturns : ∀ isOpen, a.turns isOpen ≤ b.turns isOpen) : Noted a b :=
  ⟨hturns, fun _ _ => hwindow, fun _ => .inl hwindow⟩

theorem turns_between (hfirst : Noted a b) (hsecond : Noted b c) {isOpen : Bool}
    (hsame : c.turns isOpen = a.turns isOpen) :
    b.turns isOpen = a.turns isOpen ∧ c.turns isOpen = b.turns isOpen := by
  have hle := hfirst.turns_le isOpen
  have hle' := hsecond.turns_le isOpen
  omega

theorem trans (hfirst : Noted a b) (hsecond : Noted b c) : Noted a c where
  turns_le isOpen := (hfirst.turns_le isOpen).trans (hsecond.turns_le isOpen)
  stays hopen hsame := by
    obtain ⟨hbefore, hafter⟩ := hfirst.turns_between hsecond hsame
    have hwindow := hfirst.stays hopen hbefore
    have hstill : b.isOpen = true := by rwa [isOpen, hwindow]
    exact (hsecond.stays hstill hafter).trans hwindow
  unopened hsame := by
    obtain ⟨hbefore, hafter⟩ := hfirst.turns_between hsecond hsame
    rcases hsecond.unopened hafter with hwindow | hnone
    · rw [hwindow]
      exact hfirst.unopened hbefore
    · exact .inr hnone

theorem still_closed (h : Noted a b) (hclosed : a.window = none)
    (hsame : b.turns false = a.turns false) : b.window = none := by
  rcases h.unopened hsame with hwindow | hnone
  · rw [hwindow, hclosed]
  · exact hnone

theorem closed_between (hfirst : Noted a b) (hsecond : Noted b c) (hclosed : a.window = none)
    (hsame : c.turns false = a.turns false) : b.window = none :=
  hfirst.still_closed hclosed (hfirst.turns_between hsecond hsame).1

end Noted

theorem Apart.noted (h : Apart a b) : Noted a b :=
  .of_window h.window fun isOpen => (h.turns isOpen).ge

theorem noted_record (e : Engine σ) (entry : Entry) : Noted e (e.record entry) := by
  refine .of_window rfl fun isOpen => ?_
  rw [turns_record]
  exact Nat.le_add_right _ _

/--
The window was closed on the way.  It is closed in the end, unless another one was opened
meanwhile.
-/
structure Ended (before after : Engine σ) : Prop extends Noted before after where
  closing : before.turns true < after.turns true
  closed : after.turns false = before.turns false → after.window = none

namespace Ended

theorem of_turns (hclosing : a.turns true < b.turns true) (hopening : a.turns false ≤ b.turns false)
    (hclosed : b.turns false = a.turns false → b.window = none) : Ended a b where
  turns_le isOpen := by
    cases isOpen with
    | true => exact hclosing.le
    | false => exact hopening
  stays _ hsame := absurd hsame hclosing.ne'
  unopened hsame := .inr (hclosed hsame)
  closing := hclosing
  closed := hclosed

theorem then_noted (hfirst : Ended a b) (hsecond : Noted b c) : Ended a c where
  toNoted := hfirst.toNoted.trans hsecond
  closing := Nat.lt_of_lt_of_le hfirst.closing (hsecond.turns_le true)
  closed hsame := by
    obtain ⟨hbefore, hafter⟩ := hfirst.turns_between hsecond hsame
    exact hsecond.still_closed (hfirst.closed hbefore) hafter

theorem after_noted (hsecond : Ended b c) (hfirst : Noted a b) : Ended a c where
  toNoted := hfirst.trans hsecond.toNoted
  closing := Nat.lt_of_le_of_lt (hfirst.turns_le true) hsecond.closing
  closed hsame := hsecond.closed (hfirst.turns_between hsecond.toNoted hsame).2

end Ended

theorem Turned.window_eq_none {isOpen : Bool} (h : Turned a b isOpen) (hisOpen : isOpen = false) :
    b.window = none :=
  Option.not_isSome_iff_eq_none.mp (by rw [← Engine.isOpen, h.isOpen_after, hisOpen]; decide)

theorem Turned.ended (h : Turned a b false) : Ended a b :=
  .of_turns (h.turns true ▸ Nat.lt_succ_self _) (h.turns false).ge fun _ => h.window_eq_none rfl

theorem Turned.noted {isOpen : Bool} (h : Turned a b isOpen) : Noted a b := by
  cases isOpen with
  | false => exact h.ended.toNoted
  | true =>
      refine ⟨fun wasOpen => ?_, fun hopen => ?_, fun hsame => ?_⟩
      · rw [h.turns]
        exact Nat.le_add_right _ _
      · exact absurd (h.isOpen_before.symm.trans hopen) Bool.false_ne_true
      · exact absurd ((h.turns false).symm.trans hsame) (Nat.succ_ne_self _)

theorem tracks_noted : Tracks (fun _ _ => True) (Noted (σ := σ)) where
  trans := Noted.trans
  apart := Apart.noted
  notified e name notice _ := noted_record e (.notified name notice)

theorem lasting_noted : Lasting (fun _ _ => True) (fun _ => True) (Noted (σ := σ)) :=
  tracks_noted.lasting Turned.noted

theorem ended_closeWith (depth : Nat) {reason : Note}
    (hreason : ∀ isOpen, (Entry.note reason).turnsFrom isOpen = isOpen)
    (hopen : e.isOpen = true) : Ended e (closeWith (performTo depth) reason e).2 := by
  obtain ⟨next, hclosed, hturned, -⟩ := closeWith_of_open (performTo depth) hopen hreason
  rw [hclosed]
  exact hturned.ended.then_noted (lasting_noted.announceAny depth _ next)

theorem ended_closeWindow (hopen : e.isOpen = true) : Ended e e.closeWindow.2 :=
  ended_closeWith e.nesting (fun _ => rfl) hopen

theorem ended_expire {w : Window} (hwindow : e.window = some w) {now : Instant}
    (hreached : w.deadline ≤ now) : Ended e (e.expire now).2 := by
  have hexpired : e.expire now = closeWith (performTo e.nesting) .windowExpired e := by
    simp [expire, hwindow, Window.expired, hreached]
  rw [hexpired]
  exact ended_closeWith e.nesting (fun _ => rfl) (by simp [isOpen, hwindow])

theorem ended_concluded (t : Telegram) (profile : Profile) (device : Device) (e : Engine σ) :
    Ended e ({ e with state := {} }.concluded t profile device) := by
  let closed := { e with state := {} }.note (.learned t.sender profile t.kind)
  let told := closed.notify (.found device)
  have hclosed (isOpen : Bool) : closed.turns isOpen = e.turns isOpen := turns_note isOpen _ _
  have hnoted (isOpen : Bool) : (told.note .windowClosed).turns isOpen =
      told.turns isOpen + if isOpen then 1 else 0 := turns_note isOpen told .windowClosed
  -- Those who are told of the device may open another window before the end is noted.
  have htold : Noted closed told := lasting_noted.notifyAny closed (.found device)
  have hended : Ended e (told.note .windowClosed) := by
    apply Ended.of_turns
    · rw [hnoted, ← hclosed]
      exact Nat.lt_succ_of_le (htold.turns_le true)
    · rw [hnoted, ← hclosed]
      exact htold.turns_le false
    · intro hsame
      rw [hnoted, ← hclosed] at hsame
      exact htold.still_closed rfl hsame
  exact hended.then_noted (lasting_noted.notifyAny _ .ended)

theorem noted_consulted (h : Consulted reg a b) : Noted a b :=
  lasting_noted.consulted reg.makes_any h

theorem noted_enrolment {t : Telegram} {manufacturer : Nat} {profile : Profile}
    {registration : Registration} (h : Enrolment reg t manufacturer profile a registration b) :
    Noted a b :=
  lasting_noted.enrolment h fun _ _ _ => (ended_concluded t profile _ _).toNoted

theorem noted_treatment {p : Packet} {outcome : Outcome} (h : Treatment reg p a outcome b) :
    Noted a b :=
  lasting_noted.treatment reg.makes_any h fun _ _ _ => (ended_concluded _ _ _ _).toNoted

theorem noted_handle (reg : Registry σ) (p : Packet) (e : Engine σ) :
    Noted e (e.handle reg p).2 :=
  (lasting_noted.expire e e.clock).trans (noted_treatment (treatment_handle reg p e))

theorem noted_operate (reg : Registry σ) (e : Engine σ) (now : Instant) (operation : Operation) :
    Noted e (e.operate reg now operation) :=
  lasting_noted.operate e now operation fun _ _ _ _ _ _ _ _ _ _ =>
    (ended_concluded _ _ _ _).toNoted

/-! ## Numbers of openings and closings -/

/-- By how much the openings exceed the closings, less one if the window is open. -/
def surplus (e : Engine σ) : Int :=
  e.turns false - e.turns true - if e.isOpen then 1 else 0

def Even (before after : Engine σ) : Prop := after.surplus = before.surplus

/-- There is no target unless the window is open. -/
def Sound (e : Engine σ) : Prop := ∀ target, e.state.target = some target → e.isOpen = true

theorem sound_of_none (h : e.state.target = none) : e.Sound :=
  fun _ htarget => nomatch h.symm.trans htarget

theorem Apart.sound (h : Apart a b) (hsound : a.Sound) : b.Sound := by
  intro target htarget
  rw [h.state] at htarget
  rw [h.isOpen_eq]
  exact hsound target htarget

theorem Turned.sound {isOpen : Bool} (h : Turned a b isOpen) : b.Sound := by
  cases isOpen with
  | true => exact fun _ _ => h.isOpen_after
  | false => exact sound_of_none (h.target rfl)

theorem tracks_sound : Tracks (fun _ _ => True) fun a b : Engine σ => a.Sound → b.Sound where
  trans hfirst hsecond h := hsecond (hfirst h)
  apart := Apart.sound
  notified _ _ _ _ h := h

theorem lasting_sound :
    Lasting (fun _ _ => True) (fun _ => True) fun a b : Engine σ => a.Sound → b.Sound :=
  tracks_sound.lasting fun hturned _ => hturned.sound

theorem sound_concluded (t : Telegram) (profile : Profile) (device : Device) (e : Engine σ) :
    (({ e with state := {} } : Engine σ).concluded t profile device).Sound := by
  let closed := { e with state := {} }.note (.learned t.sender profile t.kind)
  let told := closed.notify (.found device)
  have htold : told.Sound := lasting_sound.notifyAny closed _ (sound_of_none rfl)
  exact lasting_sound.notifyAny (told.note .windowClosed) .ended htold

theorem sound_run (reg : Registry σ) (h : e.Sound) (operations : List (Instant × Operation)) :
    (e.run reg operations).Sound :=
  lasting_sound.run (fun _ _ _ _ _ => sound_concluded _ _ _ _) e operations h

end Esp3Host.TeachIn.Engine
