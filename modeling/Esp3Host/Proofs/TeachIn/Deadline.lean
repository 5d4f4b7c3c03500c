import Esp3Host.Proofs.TeachIn.Admission
import Esp3Host.Proofs.TeachIn.Openings

/-!
# How long a window stays open

A window that was opened stays as it is, whatever is asked of the engine, until it is closed, a
deletion is granted, its target is created or its deadline is reached.  The registry and observers
may close it as its owner does.
-/

namespace Esp3Host.TeachIn

variable {σ : Type}

def Window.EndedBy (w : Window) (outcome : Outcome) : Prop :=
  outcome = .answered .deletionAccepted none ∨
    w.isTargeted = true ∧ outcome.created?.isSome = true

namespace Engine

variable {reg : Registry σ} {p : Packet} {a b e asked last : Engine σ} {w : Window}

def Ends (reg : Registry σ) (w : Window) (e : Engine σ) (now : Instant) : Operation → Prop
  | .openWindow _ _ => False
  | .closeWindow => True
  | .expire deadline => w.deadline ≤ deadline
  | .handle p => w.deadline ≤ now ∨ w.EndedBy ({ e with clock := now }.handle reg p).1

/-- These observers do not turn a window in this state, unless they are told that it was turned. -/
def Reserved (isOpen : Bool) (observers : List Observer) : Prop :=
  ∀ observer ∈ observers, ∀ notice, notice ≠ .turn (!isOpen) →
    observer.Makes (WindowCall.IsIdle isOpen) notice

/-- Neither the registry nor an observer turns a window in this state. -/
structure Passive (reg : Registry σ) (isOpen : Bool) (e : Engine σ) : Prop where
  registry : reg.Makes (WindowCall.IsIdle isOpen)
  observers : Reserved isOpen e.observers

/-- The registry or an observer turned a window in this state on the way: a turn was noted. -/
def Interfered (reg : Registry σ) (isOpen : Bool) (before after : Engine σ) : Prop :=
  ¬Passive reg isOpen before ∧ after.turns isOpen ≠ before.turns isOpen

/-! ## Windows that nobody turns -/

structure Unturned (isOpen : Bool) (before after : Engine σ) : Prop where
  observers : after.observers = before.observers
  turns : after.turns isOpen = before.turns isOpen

section

variable {isOpen : Bool}

theorem Apart.unturned (h : Apart a b) : Unturned isOpen a b := ⟨h.observers, h.turns isOpen⟩

theorem Turned.unturned (h : Turned a b isOpen) : Unturned isOpen a b :=
  ⟨h.observers, (h.turns isOpen).trans (by simp)⟩

namespace Unturned

theorem trans {c : Engine σ} (hfirst : Unturned isOpen a b) (hsecond : Unturned isOpen b c) :
    Unturned isOpen a c :=
  ⟨hsecond.observers.trans hfirst.observers, hsecond.turns.trans hfirst.turns⟩

theorem reserved (h : Unturned isOpen a b) (hreserved : Reserved isOpen a.observers) :
    Reserved isOpen b.observers :=
  h.observers ▸ hreserved

theorem passive (h : Unturned isOpen a b) (hpassive : Passive reg isOpen a) :
    Passive reg isOpen b :=
  ⟨hpassive.registry, h.reserved hpassive.observers⟩

end Unturned

theorem turns_of_not_interfered (h : ¬Interfered reg isOpen a b)
    (hunturned : Passive reg isOpen a → Unturned isOpen a b) :
    b.turns isOpen = a.turns isOpen := by
  by_contra hturned
  exact h ⟨fun hpassive => hturned (hunturned hpassive).turns, hturned⟩

def Unturning (isOpen : Bool) (before after : Engine σ) : Prop :=
  Reserved isOpen before.observers → Unturned isOpen before after

theorem tracks_unturning : Tracks (fun _ _ => True) (Unturning (σ := σ) isOpen) where
  trans hfirst hsecond hreserved :=
    (hfirst hreserved).trans (hsecond ((hfirst hreserved).reserved hreserved))
  apart h _ := h.unturned
  notified e _ _ _ _ := ⟨rfl, turns_record_plain (fun _ => rfl) isOpen e⟩

theorem unturning_announce {perform : Performer σ}
    (hperform : ∀ call e, call.IsIdle isOpen → Unturning isOpen e (perform call e).2)
    (hturned : Turned a b isOpen) : Unturning isOpen a (announce perform (.turn isOpen) b) := by
  intro hreserved
  have hafter : Reserved isOpen b.observers := hturned.unturned.reserved hreserved
  have hother : Notice.turn isOpen ≠ .turn (!isOpen) := by cases isOpen <;> simp [Notice.turn]
  apply hturned.unturned.trans
  exact tracks_unturning.announce hperform (fun observer hmem => hafter observer hmem _ hother)
    hafter

theorem follows_unturning :
    Follows (fun _ _ => True) (WindowCall.IsIdle isOpen) (Unturning (σ := σ) isOpen) := by
  refine ⟨tracks_unturning, fun depth => ?_⟩
  induction depth with
  | zero => exact fun _ _ _ => tracks_unturning.apart .refl
  | succ depth ih =>
      rintro (⟨length, target⟩ | _) e hidle
      · obtain rfl : isOpen = true := hidle
        exact tracks_unturning.openWith (unturning_announce ih) length target
      · obtain rfl : isOpen = false := hidle
        exact tracks_unturning.closeWith (unturning_announce ih) fun _ => rfl

theorem unturning_notify {notice : Notice} (hnotice : notice ≠ .turn (!isOpen)) (e : Engine σ) :
    Unturning isOpen e (e.notify notice) := fun hreserved =>
  follows_unturning.notify (fun _ => trivial)
    (fun observer hmem => hreserved observer hmem notice hnotice) hreserved

end

/-! ## Windows that nobody closes -/

section

variable {t : Telegram} {manufacturer : Nat} {profile : Profile} {registration : Registration}
  {outcome : Outcome}

theorem unclosed_enrolment (hwindow : a.window = some w) (hpassive : Passive reg true a)
    (h : Enrolment reg t manufacturer profile a registration b)
    (hgoes : ¬(w.isTargeted = true ∧ registration.outcome.created?.isSome = true)) :
    Unturned true a b := by
  have hmode : a.isTargeted = w.isTargeted := by simp [isTargeted, hwindow]
  cases h with
  | closed => exact (apart_note fun _ => rfl).unturned
  | failed _ hcreate =>
      exact (apart_create hcreate).unturned.trans (apart_note fun _ => rfl).unturned
  | joined _ _ hcreate =>
      have hlearned : Unturned true a _ :=
        (apart_create hcreate).unturned.trans
          (apart_note (n := .learned t.sender profile t.kind) fun _ => rfl).unturned
      have hreserved := hlearned.reserved hpassive.observers
      exact hlearned.trans (unturning_notify (by simp [Notice.turn]) _ hreserved)
  | completed _ htargeted => exact absurd ⟨hmode ▸ htargeted, rfl⟩ hgoes

theorem unclosed_treatment (hwindow : a.window = some w) (hpassive : Passive reg true a)
    (h : Treatment reg p a outcome b) (hgoes : ¬w.EndedBy outcome) : Unturned true a b := by
  have hopen : a.isOpen = true := by simp [isOpen, hwindow]
  have hconsulted {next} (hnext : Consulted reg a next) : Unturned true a next :=
    follows_unturning.consulted hpassive.registry hnext hpassive.observers
  have hregistered {asked last registration} {t manufacturer profile}
      (hasked : Consulted reg a asked)
      (henrolment : Enrolment reg t manufacturer profile asked registration last)
      (hgoes : ¬(w.isTargeted = true ∧ registration.outcome.created?.isSome = true)) :
      Unturned true a last := by
    have hunturned := hconsulted hasked
    have hstays := (noted_consulted hasked).stays hopen hunturned.turns
    exact hunturned.trans
      (unclosed_enrolment (hstays.trans hwindow) (hunturned.passive hpassive) henrolment hgoes)
  cases h with
  | dismissed _ hnext => exact hconsulted hnext
  | heard t =>
      have hunturned := hconsulted (.lookup .refl t.sender)
      have hreserved := hunturned.reserved hpassive.observers
      exact hunturned.trans (unturning_notify (by simp [Notice.turn]) _ hreserved)
  | tried _ _ _ _ _ hnext henrolment =>
      exact hregistered hnext henrolment fun hended => hgoes (.inr hended)
  | paired _ _ _ _ hnext henrolment =>
      have hlast := hregistered hnext henrolment fun hended => hgoes (.inr hended)
      exact hlast.trans (apart_sendAnswer ..).unturned
  | missed _ _ _ _ hnext henrolment =>
      exact hregistered hnext henrolment (by simp [Registration.outcome, Outcome.created?])
  | failed _ _ _ _ hnext henrolment =>
      have hlast := hregistered hnext henrolment
        (by simp [Registration.outcome, Outcome.created?])
      exact hlast.trans (apart_sendAnswer ..).unturned
  | refused _ _ _ _ hnext => exact (hconsulted hnext).trans (apart_sendAnswer ..).unturned
  | deleted => exact absurd (.inl rfl) hgoes

end

/-! ## Windows that nobody opens -/

theorem lasting_unopening :
    Lasting (fun _ _ => True) (WindowCall.IsIdle false) (Unturning (σ := σ) false) where
  toFollows := follows_unturning
  notifies {notice} hnotice e := by
    have hother : notice ≠ .turn (!false) := by
      rintro rfl
      cases hnotice
    exact unturning_notify hother e
  closing depth _ hreason _ :=
    tracks_unturning.closeWith (unturning_announce (follows_unturning.calling depth)) hreason

theorem unopening_concluded (t : Telegram) (profile : Profile) (device : Device) (e : Engine σ) :
    Unturning false e ({ e with state := {} }.concluded t profile device) := by
  intro hreserved
  let closed := { e with state := {} }.note (.learned t.sender profile t.kind)
  let told := closed.notify (.found device)
  have hclosed : Unturned false e closed := ⟨rfl, turns_note false _ _⟩
  have htold : Unturned false closed told :=
    lasting_unopening.notifies rfl closed (hclosed.reserved hreserved)
  have hnoted : Unturned false told (told.note .windowClosed) := ⟨rfl, turns_note false told _⟩
  have hended := (hclosed.trans htold).trans hnoted
  exact hended.trans (unturning_notify (by simp [Notice.turn]) _ (hended.reserved hreserved))

theorem unopened_handle (h : Passive reg false e) (p : Packet) :
    Unturned false e (e.handle reg p).2 :=
  lasting_unopening.trans (lasting_unopening.expire e e.clock)
    (lasting_unopening.treatment h.registry (treatment_handle reg p e) fun _ _ _ =>
      unopening_concluded _ _ _ _) h.observers

/-! ## Windows that end -/

section

variable {t : Telegram} {manufacturer : Nat} {profile : Profile} {registration : Registration}
  {outcome : Outcome}

theorem Noted.ended_of_replaced (h : Noted a b) (hwindow : a.window = some w)
    (hopen : b.isOpen = true) (hother : b.window ≠ some w) : Ended a b := by
  have hwas : a.isOpen = true := by simp [isOpen, hwindow]
  have hclosing : b.turns true ≠ a.turns true := fun hsame =>
    hother ((h.stays hwas hsame).trans hwindow)
  -- Another window can only have taken the place of this one by being opened.
  have hopening : b.turns false ≠ a.turns false := by
    intro hsame
    rcases h.unopened hsame with hwindow' | hnone
    · exact hother (hwindow'.trans hwindow)
    · simp [isOpen, hnone] at hopen
  exact .of_turns ((h.turns_le true).lt_of_ne' hclosing) (h.turns_le false)
    fun hsame => absurd hsame hopening

theorem ended_enrolment (hwindow : a.window = some w) (htargeted : w.isTargeted = true)
    (hasked : Noted a asked)
    (h : Enrolment reg t manufacturer profile asked registration last)
    (hcreated : registration.outcome.created?.isSome = true) : Ended a last := by
  cases h with
  | closed | failed => cases hcreated
  | joined hadmits hopen hcreate =>
      -- The registry has put a window without target in the place of this one.
      have hother : asked.window ≠ some w := by
        intro hsame
        simp [isTargeted, hsame, htargeted] at hopen
      have hreplaced := hasked.ended_of_replaced hwindow (isOpen_of_admits hadmits) hother
      have hjoined : Enrolment reg t manufacturer profile asked _ _ := .joined hadmits hopen hcreate
      exact hreplaced.then_noted (noted_enrolment hjoined)
  | completed _ _ hcreate =>
      exact (ended_concluded t profile _ _).after_noted (hasked.trans (apart_create hcreate).noted)

theorem ended_treatment (hwindow : a.window = some w) (h : Treatment reg p a outcome b)
    (hended : w.EndedBy outcome) : Ended a b := by
  cases h with
  | dismissed hidle =>
      obtain ⟨hnone, hsilent⟩ := Outcome.idle_facts hidle
      rcases hended with rfl | ⟨-, hcreated⟩
      · cases hsilent
      · simp [hnone] at hcreated
  | heard | missed | failed | refused => simp [Window.EndedBy, Outcome.created?] at hended
  | @tried _ _ registration _ _ _ _ _ hnext henrolment =>
      rcases hended with hdeleted | ⟨htargeted, hcreated⟩
      · cases registration <;> cases hdeleted
      · exact ended_enrolment hwindow htargeted (noted_consulted hnext) henrolment hcreated
  | paired _ _ _ _ hnext henrolment =>
      rcases hended with hdeleted | ⟨htargeted, -⟩
      · cases hdeleted
      · exact (ended_enrolment hwindow htargeted (noted_consulted hnext) henrolment rfl).then_noted
          (apart_sendAnswer ..).noted
  | deleted _ _ _ _ hnext hopen =>
      exact ((ended_closeWindow hopen).after_noted (noted_consulted hnext)).then_noted
        (apart_sendAnswer ..).noted

end

/-! ## Operations -/

theorem expire_of_early (hwindow : e.window = some w) {now : Instant}
    (hearly : ¬w.deadline ≤ now) : e.expire now = (false, e) := by
  simp [expire, hwindow, Window.expired, hearly]

theorem unclosed_handle (hwindow : e.window = some w) (hpassive : Passive reg true e)
    (hearly : ¬w.deadline ≤ e.clock) (hgoes : ¬w.EndedBy (e.handle reg p).1) :
    Unturned true e (e.handle reg p).2 := by
  have htreatment := treatment_handle reg p e
  rw [expire_of_early hwindow hearly] at htreatment
  exact unclosed_treatment hwindow hpassive htreatment hgoes

theorem window_handle (hwindow : e.window = some w) (hpassive : Passive reg true e)
    (hearly : ¬w.deadline ≤ e.clock) (hgoes : ¬w.EndedBy (e.handle reg p).1) :
    (e.handle reg p).2.window = some w := by
  have hopen : e.isOpen = true := by simp [isOpen, hwindow]
  have hunclosed := unclosed_handle hwindow hpassive hearly hgoes
  exact ((noted_handle reg p e).stays hopen hunclosed.turns).trans hwindow

theorem ended_handle (hwindow : e.window = some w)
    (hends : w.deadline ≤ e.clock ∨ w.EndedBy (e.handle reg p).1) :
    Ended e (e.handle reg p).2 := by
  have htreatment := treatment_handle reg p e
  by_cases hreached : w.deadline ≤ e.clock
  · exact (ended_expire hwindow hreached).then_noted (noted_treatment htreatment)
  · rw [expire_of_early hwindow hreached] at htreatment
    exact ended_treatment hwindow htreatment (hends.resolve_left hreached)

variable {now : Instant} {operation : Operation}

theorem unopened_operate (h : Passive reg false e) (hends : e.Ends reg w now operation) :
    Unturned false e (e.operate reg now operation) := by
  have hclock : Unturned false e { e with clock := now } := (apart_clock e now).unturned
  apply hclock.trans
  cases operation with
  | openWindow => cases hends
  | closeWindow => exact lasting_unopening.closing e.nesting (fun _ => rfl) _ h.observers
  | expire deadline => exact lasting_unopening.expire _ deadline h.observers
  | handle p => exact unopened_handle (hclock.passive h) p

theorem unclosed_operate (hwindow : e.window = some w) (h : Passive reg true e)
    (hgoes : ¬e.Ends reg w now operation) : Unturned true e (e.operate reg now operation) := by
  have hclock : Unturned true e { e with clock := now } := (apart_clock e now).unturned
  apply hclock.trans
  cases operation with
  | openWindow length target =>
      exact follows_unturning.calling _ (.openWindow length target) _ rfl h.observers
  | closeWindow => exact absurd trivial hgoes
  | expire deadline =>
      rw [operate, expire_of_early (e := { e with clock := now }) hwindow hgoes]
      exact ⟨rfl, rfl⟩
  | handle p =>
      obtain ⟨hearly, hgoes⟩ := not_or.mp hgoes
      exact unclosed_handle (e := { e with clock := now }) hwindow (hclock.passive h) hearly hgoes

theorem ended_operate (hwindow : e.window = some w) (hends : e.Ends reg w now operation) :
    Ended e (e.operate reg now operation) := by
  refine Ended.after_noted ?_ (apart_clock e now).noted
  cases operation with
  | openWindow => cases hends
  | closeWindow => exact ended_closeWindow (congrArg Option.isSome hwindow)
  | expire deadline => exact ended_expire (e := { e with clock := now }) hwindow hends
  | handle p => exact ended_handle (e := { e with clock := now }) hwindow hends

theorem closed_operate (hwindow : e.window = some w) (hends : e.Ends reg w now operation)
    (h : ¬Interfered reg false e (e.operate reg now operation)) :
    (e.operate reg now operation).window = none :=
  (ended_operate hwindow hends).closed
    (turns_of_not_interfered h fun hpassive => unopened_operate hpassive hends)

theorem window_operate (hwindow : e.window = some w) (hgoes : ¬e.Ends reg w now operation)
    (h : ¬Interfered reg true e (e.operate reg now operation)) :
    (e.operate reg now operation).window = some w := by
  have hopen : e.isOpen = true := by simp [isOpen, hwindow]
  have hunclosed := turns_of_not_interfered h fun hpassive =>
    unclosed_operate hwindow hpassive hgoes
  exact ((noted_operate reg e now operation).stays hopen hunclosed).trans hwindow

/-! ## Packets after the deadline -/

theorem yields_handleTelegram_of_closed {t : Telegram} (hparse : Telegram.ofPacket p = .ok t)
    (hclosed : a.window = none)
    (hunopened : (a.handleTelegram reg p t).2.turns false = a.turns false) :
    Yields a (a.handleTelegram reg p t).2 [] := by
  have hasked : Consulted reg a (a.lookup reg t.sender).2 := .lookup .refl t.sender
  have hyields := yields_consulted hasked
  have hnext := noted_consulted hasked
  unfold handleTelegram at hunopened ⊢
  rcases hlookup : a.lookup reg t.sender with ⟨_ | device, next⟩
  · rw [hlookup] at hyields hnext hunopened
    have hlast : Treatment reg p next _ _ := treatment_handleUnknown hparse .refl
    have hstill : next.window = none :=
      hnext.closed_between (noted_treatment hlast) hclosed hunopened
    have hunknown : next.handleUnknown reg t =
        (.notLearning, next.note (.notLearning t.kind t.sender)) := by
      simp [handleUnknown, hstill]
    dsimp only
    rw [hunknown]
    exact hyields.note _
  · rw [hlookup] at hyields
    exact hyields.then_nothing (yields_notify next rfl)

theorem yields_handle_of_closed (hclosed : (e.expire e.clock).2.window = none)
    (hunopened : (e.handle reg p).2.turns false = (e.expire e.clock).2.turns false) :
    Yields (e.expire e.clock).2 (e.handle reg p).2 [] := by
  unfold handle at hunopened ⊢
  split at hunopened
  case h_1 => exact .refl
  case h_2 => exact .note .refl _
  case h_3 t hparse => exact yields_handleTelegram_of_closed hparse hclosed hunopened

theorem creations_of_closed (hclosed : (e.expire e.clock).2.window = none)
    (hunopened : (e.handle reg p).2.turns false = (e.expire e.clock).2.turns false) :
    e.creations reg p = [] := by
  by_contra hne
  obtain ⟨creation, hmem⟩ := List.exists_mem_of_ne_nil _ hne
  obtain ⟨t, asked, last, -, hasked, hadmitted, hafter⟩ := (settled_handle reg p e).admitted hmem
  have hregistered : Noted asked last := by
    rw [hadmitted.registered]
    exact noted_enrolment (enrolment_register reg t _ _ asked)
  have hanswered : Noted last (e.handle reg p).2 := by
    rcases hafter with hsame | ⟨q, code, device, hsame⟩
    · rw [hsame]
      exact Apart.refl.noted
    · rw [hsame]
      exact (apart_sendAnswer t q code device).noted
  -- Nobody opens a window while the registry is asked either, so no window admits the sender.
  have hstill : asked.window = none :=
    (noted_consulted hasked).closed_between (hregistered.trans hanswered) hclosed hunopened
  have hadmits := hadmitted.admits
  simp [admits, hstill] at hadmits

/-- The packet is handled with the window closed: no device is asked for, and no packet queued. -/
structure Late (reg : Registry σ) (p : Packet) (e : Engine σ) : Prop where
  closed : (e.expire e.clock).2.window = none
  handled : e.handle reg p = (e.expire e.clock).2.handle reg p
  creations : e.creations reg p = []
  queued : (Step.mk e (.handle p) (e.handle reg p).2).queued = []

theorem late_handle (hwindow : e.window = some w) (hlate : w.deadline ≤ e.clock)
    (h : ¬Interfered reg false e (e.handle reg p).2) : Late reg p e := by
  have hunopened := turns_of_not_interfered h fun hpassive => unopened_handle hpassive p
  let closed := (e.expire e.clock).2
  have hended : Ended e closed := ended_expire hwindow hlate
  have hlast : Noted closed (e.handle reg p).2 := noted_treatment (treatment_handle reg p e)
  obtain ⟨hbefore, hopenings⟩ := hended.turns_between hlast hunopened
  have hclosed : closed.window = none := hended.closed hbefore
  have hstill : (closed.expire closed.clock).2 = closed := by simp [expire, hclosed]
  have hyields := (yields_expire e e.clock).trans (yields_handle_of_closed hclosed hopenings)
  refine ⟨hclosed, ?_, creations_of_closed hclosed hopenings, hyields.queued_eq (.handle p)⟩
  unfold handle
  rw [hstill]

/-! ## The promise -/

theorem window_openWindow {length : Span} {target : Option Target}
    (hopened : (e.openWindow length target).1 = true)
    (h : ¬Interfered reg true e (e.openWindow length target).2) :
    (e.openWindow length target).2.window =
      some ⟨e.clock.after (min length Window.maxLength), target⟩ := by
  have hclosed : e.isOpen = false := by
    by_contra hopen
    rw [Bool.not_eq_false] at hopen
    simp [openWindow, perform, performTo, openWith, hopen] at hopened
  have hunclosed := turns_of_not_interfered h fun hpassive =>
    follows_unturning.calling (e.nesting + 1) (.openWindow length target) e rfl hpassive.observers
  obtain ⟨next, hnext, hturned, hwindow⟩ :=
    openWith_of_closed (performTo e.nesting) hclosed length target
  have hafter : e.openWindow length target =
      (true, announce (performTo e.nesting) .started next) := hnext
  rw [hafter] at hunclosed ⊢
  have htold : Noted next (announce (performTo e.nesting) .started next) :=
    lasting_noted.announceAny e.nesting .started next
  have hstays := htold.stays hturned.isOpen_after (hunclosed.trans (hturned.turns true).symm)
  exact hstays.trans hwindow

theorem window_run {operations : List (Instant × Operation)} (hwindow : e.window = some w)
    (hlasts : e.Throughout reg (fun e now operation =>
      ¬e.Ends reg w now operation ∧
        ¬Interfered reg true e (e.operate reg now operation)) operations) :
    (e.run reg operations).window = some w := by
  induction operations generalizing e with
  | nil => exact hwindow
  | cons step rest ih =>
      obtain ⟨⟨hgoes, hleft⟩, hrest⟩ := hlasts
      exact ih (window_operate hwindow hgoes hleft) hrest

theorem openWindow_of_open (hwindow : e.window = some w) (length : Span)
    (target : Option Target) :
    (e.openWindow length target).1 = false ∧ (e.openWindow length target).2.window = some w := by
  have hopen : e.isOpen = true := by simp [isOpen, hwindow]
  have hrefused : e.openWindow length target = (false, e.note .alreadyOpen) := if_pos hopen
  rw [hrefused]
  exact ⟨rfl, hwindow⟩

theorem remaining_eq_zero_iff (hwindow : e.window = some w) (now : Instant) :
    w.remaining now = 0 ↔ (e.expire now).1 = true := by
  have hexpired : (e.expire now).1 = w.expired now := by
    have hopen : e.isOpen = true := by simp [isOpen, hwindow]
    cases hexpired : w.expired now <;> simp [expire, hwindow, hexpired, closeWith, hopen]
  rw [hexpired, Window.remaining, Window.expired, Instant.since, Int.toNat_eq_zero,
    decide_eq_true_iff]
  exact ⟨Int.le_of_sub_nonpos, Int.sub_nonpos_of_le⟩

/--
The window is open as promised.  Nobody opens another one or changes it.  Every operation that ends
it does so and leaves no window open, and a packet at its deadline or later is handled with the
window closed, unless the registry or an observer opens another one.  No time remains exactly when
the deadline is reached.
-/
structure Promised (reg : Registry σ) (w : Window) (e : Engine σ) : Prop where
  window : e.window = some w
  refuses : ∀ now length target,
    ({ e with clock := now }.openWindow length target).1 = false ∧
      ({ e with clock := now }.openWindow length target).2.window = some w
  ends : ∀ now operation, e.Ends reg w now operation →
    Ended e (e.operate reg now operation) ∧
      (¬Interfered reg false e (e.operate reg now operation) →
        (e.operate reg now operation).window = none)
  late : ∀ now p, w.deadline ≤ now →
    ¬Interfered reg false { e with clock := now } ({ e with clock := now }.handle reg p).2 →
      Late reg p { e with clock := now }
  remaining : ∀ now, w.remaining now = 0 ↔ (e.expire now).1 = true

/--
For every registry and all observers, a window that was opened is open as promised after every run
of operations none of which ends it, as long as neither the registry nor an observer closes it.
-/
theorem open_as_promised (reg : Registry σ) (e : Engine σ) (start : Instant) (length : Span)
    (target : Option Target) (operations : List (Instant × Operation)) :
    let begun := { e with clock := start }
    let opened := (begun.openWindow length target).2
    let w : Window := ⟨start.after (min length Window.maxLength), target⟩
    (begun.openWindow length target).1 = true → ¬Interfered reg true begun opened →
    opened.Throughout reg (fun e now operation =>
      ¬e.Ends reg w now operation ∧
        ¬Interfered reg true e (e.operate reg now operation)) operations →
    Promised reg w (opened.run reg operations) := by
  intro begun opened w hopened hleft hlasts
  have hopening : opened.window = some w := window_openWindow hopened hleft
  have hwindow := window_run hopening hlasts
  exact {
    window := hwindow
    refuses := fun now => openWindow_of_open (e := { opened.run reg operations with clock := now })
      hwindow
    ends := fun _ _ hends => ⟨ended_operate hwindow hends, closed_operate hwindow hends⟩
    late := fun now _ => late_handle (e := { opened.run reg operations with clock := now }) hwindow
    remaining := remaining_eq_zero_iff hwindow }

theorem open_as_promised_for_a_day :
    let sender : Address := ⟨0x01, 0x80, 0x2A, 0x3B⟩
    let eager : Observer := ⟨"eager", true, fun
      | .started => [fun _ => some (.openWindow Span.longest (some ⟨sender, Profile.contact⟩))]
      | _ => []⟩
    let e : Engine DeviceTable := { registry := {}, observers := [eager, .recorder "panel"] }
    let opened := (e.openWindow Span.longest none).2
    let operations := [
      (Instant.after 0 (Span.ofSeconds 3600),
        .openWindow (Span.ofSeconds 60) (some ⟨sender, Profile.contact⟩)),
      (Instant.after 0 (Span.ofSeconds 86399), .expire (Instant.after 0 (Span.ofSeconds 86399)))]
    let after := opened.run tableRegistry operations
    (e.openWindow Span.longest none).1 = true ∧
      Promised tableRegistry ⟨Instant.after 0 (Span.ofSeconds 86400), none⟩ after ∧
      ∀ now p, Instant.after 0 (Span.ofSeconds 86400) ≤ now →
        Late tableRegistry p { after with clock := now } := by
  intro sender eager e opened operations after
  have hreserved (isOpen : Bool) : Reserved isOpen [eager, .recorder "panel"] := by
    intro observer hmem notice hnotice decide hdecide journal call hcall
    rcases List.mem_pair.mp hmem with rfl | rfl
    · cases notice with
      | started =>
          cases List.mem_singleton.mp hdecide
          cases hcall
          cases isOpen with
          | false => exact absurd rfl hnotice
          | true => rfl
      | _ => cases hdecide
    · cases hdecide
  have hpassive (isOpen : Bool) (next : Engine DeviceTable)
      (h : next.observers = [eager, .recorder "panel"]) : Passive tableRegistry isOpen next :=
    ⟨⟨nofun, nofun⟩, h ▸ hreserved isOpen⟩
  have hopened : (e.openWindow Span.longest none).1 = true := rfl
  have hearly : ¬Instant.after 0 (min Span.longest Window.maxLength) ≤
      Instant.after 0 (Span.ofSeconds 86399) := by decide
  have hpromised := open_as_promised tableRegistry e 0 Span.longest none operations hopened
    (fun h => h.1 (hpassive true _ rfl))
    ⟨⟨id, fun h => h.1 (hpassive true _ rfl)⟩, ⟨hearly, fun h => h.1 (hpassive true _ rfl)⟩,
      trivial⟩
  exact ⟨hopened, hpromised, fun now p hlate =>
    hpromised.late now p hlate fun h => h.1 (hpassive false _ rfl)⟩

end Engine

end Esp3Host.TeachIn
