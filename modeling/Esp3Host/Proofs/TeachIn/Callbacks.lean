import Esp3Host.Proofs.TeachIn.Runs
import Esp3Host.Proofs.TeachIn.Treatment

/-!
# Relations across callbacks

Observers may open and close the window while they are told something, and so may a registry while
it is asked; the calls of one take effect before the next is told.  A relation between engines that
holds across notices and turns of the window, and across all that concerns neither the window nor
observers, holds across whole operations.
-/

namespace Esp3Host.TeachIn

/-- The call has no effect on a window in this state. -/
def WindowCall.IsIdle (isOpen : Bool) : WindowCall → Prop
  | openWindow _ _ => isOpen = true
  | closeWindow => isOpen = false

/-- Every call that the observer makes at this notice is of this kind. -/
def Observer.Makes (observer : Observer) (Allowed : WindowCall → Prop) (notice : Notice) : Prop :=
  ∀ decide ∈ observer.calls notice, ∀ journal call, decide journal = some call → Allowed call

structure Registry.Makes {σ : Type} (reg : Registry σ) (Allowed : WindowCall → Prop) : Prop where
  lookup : ∀ state address, ∀ call ∈ (reg.lookup state address).calls, Allowed call
  supports : ∀ state profile, ∀ call ∈ (reg.supports state profile).calls, Allowed call

theorem Observer.makes_any (observer : Observer) (notice : Notice) :
    observer.Makes (fun _ => True) notice :=
  fun _ _ _ _ _ => trivial

theorem Registry.makes_any {σ : Type} (reg : Registry σ) : reg.Makes fun _ => True :=
  ⟨fun _ _ _ _ => trivial, fun _ _ _ _ => trivial⟩

namespace Engine

variable {σ : Type} {a b c e next : Engine σ} {reg : Registry σ} {perform : Performer σ}

/-! ## What concerns neither the window nor observers -/

structure Apart (before after : Engine σ) : Prop where
  state : after.state = before.state
  observers : after.observers = before.observers
  turns : ∀ isOpen, after.turns isOpen = before.turns isOpen
  told : ∀ name, after.told name = before.told name

namespace Apart

theorem refl : Apart e e := ⟨rfl, rfl, fun _ => rfl, fun _ => rfl⟩

theorem trans (hfirst : Apart a b) (hsecond : Apart b c) : Apart a c where
  state := hsecond.state.trans hfirst.state
  observers := hsecond.observers.trans hfirst.observers
  turns isOpen := (hsecond.turns isOpen).trans (hfirst.turns isOpen)
  told name := (hsecond.told name).trans (hfirst.told name)

theorem window (h : Apart a b) : b.window = a.window := congrArg State.window h.state

theorem isOpen_eq (h : Apart a b) : b.isOpen = a.isOpen := congrArg Option.isSome h.window

end Apart

theorem apart_record {entry : Entry} (hplain : entry.Plain)
    (hsilent : ∀ name, entry.noticeTo name = []) : Apart e (e.record entry) :=
  ⟨rfl, rfl, fun isOpen => turns_record_plain hplain isOpen e, fun name => by
    rw [told_record, hsilent, List.append_nil]⟩

theorem apart_note {n : Note} (hplain : (Entry.note n).Plain) : Apart e (e.note n) :=
  apart_record hplain fun _ => rfl

theorem apart_registry (e : Engine σ) (registry : σ) : Apart e { e with registry } :=
  ⟨rfl, rfl, fun _ => rfl, fun _ => rfl⟩

theorem apart_clock (e : Engine σ) (clock : Instant) : Apart e { e with clock } :=
  ⟨rfl, rfl, fun _ => rfl, fun _ => rfl⟩

theorem apart_create {device : Device} {result : Except DeviceError Device}
    (hcreate : e.create reg device = (result, next)) : Apart e next := by
  obtain rfl : (e.create reg device).2 = next := by rw [hcreate]
  exact List.foldlRecOn _ _ (apart_registry e _) fun _ h _ _ => h.trans (apart_note fun _ => rfl)

theorem apart_sendAnswer (t : Telegram) (q : Query) (code : AnswerCode) (device : Option Device) :
    Apart e (e.sendAnswer t q code device).2 := by
  refine ⟨rfl, rfl, fun isOpen => ?_, fun name => ?_⟩
  · rw [sendAnswer, turns, Link.journal_send, Journal.entries_add, List.countP_append]
    rfl
  · rw [sendAnswer, told, Link.journal_send, Journal.told_add]
    exact List.append_nil _

/-! ## Turns of the window -/

/-- Calls that have no effect on the window concern nobody. -/
def Idles (perform : Performer σ) : Prop :=
  ∀ call (e : Engine σ), call.IsIdle e.isOpen → Apart e (perform call e).2

/-- The window was turned and the turn noted.  Observers are still to be told. -/
structure Turned (before after : Engine σ) (isOpen : Bool) : Prop where
  isOpen_before : before.isOpen = !isOpen
  isOpen_after : after.isOpen = isOpen
  target : isOpen = false → after.state.target = none
  observers : after.observers = before.observers
  turns : ∀ wasOpen, after.turns wasOpen = before.turns wasOpen + if wasOpen = isOpen then 0 else 1
  told : ∀ name, after.told name = before.told name

theorem openWith_of_open (perform : Performer σ) (hopen : e.isOpen = true) (length : Span)
    (target : Option Target) : openWith perform length target e = (false, e.note .alreadyOpen) :=
  if_pos hopen

theorem openWith_of_closed (perform : Performer σ) (hclosed : e.isOpen = false) (length : Span)
    (target : Option Target) :
    ∃ next, openWith perform length target e = (true, announce perform (.turn true) next) ∧
      Turned e next true ∧
      next.window = some ⟨e.clock.after (min length Window.maxLength), target⟩ := by
  rw [openWith, if_neg (by simp [hclosed])]
  -- The note of a request that was cut down concerns nobody.
  have hclamped : Apart e
      (if Window.maxLength < length then e.note (.windowClamped length) else e) := by
    split
    · exact apart_note fun _ => rfl
    · exact .refl
  refine ⟨_, rfl, ⟨hclosed, rfl, nofun, hclamped.observers, fun wasOpen => ?_, fun name => ?_⟩, ?_⟩
  · rw [turns_note]
    cases wasOpen <;> exact congrArg (· + _) (hclamped.turns _)
  · exact (told_note _ _ name).trans (hclamped.told name)
  · split <;> rfl

theorem closeWith_of_closed (perform : Performer σ) (hclosed : e.isOpen = false) (reason : Note) :
    closeWith perform reason e = (false, e) :=
  if_neg (by simp [hclosed])

theorem closeWith_of_open (perform : Performer σ) (hopen : e.isOpen = true) {reason : Note}
    (hreason : ∀ isOpen, (Entry.note reason).turnsFrom isOpen = isOpen) :
    ∃ next, closeWith perform reason e = (true, announce perform (.turn false) next) ∧
      Turned e next false ∧ next.window = none := by
  rw [closeWith, if_pos hopen]
  refine ⟨_, rfl, ⟨hopen, rfl, fun _ => rfl, rfl, fun wasOpen => ?_, fun name => ?_⟩, rfl⟩
  · rw [turns_note, hreason]
    cases wasOpen <;> rfl
  · exact told_note _ _ name

theorem idles_performTo (depth : Nat) : Idles (performTo depth : Performer σ) := by
  intro call e hidle
  cases depth with
  | zero => exact .refl
  | succ depth =>
      cases call with
      | openWindow length target =>
          rw [performTo, openWith_of_open _ hidle]
          exact apart_note fun _ => rfl
      | closeWindow =>
          rw [performTo, closeWith_of_closed _ hidle]
          exact .refl

/-! ## Relations across notices -/

/-- A relation that holds across these notices, and across all that concerns nobody. -/
structure Tracks (Tellable : String → Notice → Prop) (R : Engine σ → Engine σ → Prop) : Prop where
  trans : ∀ {a b c}, R a b → R b c → R a c
  apart : ∀ {a b}, Apart a b → R a b
  notified : ∀ e name notice, Tellable name notice → R e (e.record (.notified name notice))

variable {Tellable : String → Notice → Prop} {R : Engine σ → Engine σ → Prop}
  {Allowed : WindowCall → Prop}

namespace Tracks

theorem answerCalls (h : Tracks Tellable R)
    (hperform : ∀ call e, Allowed call → R e (perform call e).2) {notice : Notice}
    {observer : Observer} (hmakes : observer.Makes Allowed notice) (e : Engine σ) :
    R e (answerCalls perform observer e (observer.calls notice)) := by
  refine List.foldlRecOn (motive := R e) _ _ (h.apart .refl) fun next hnext decide hmem => ?_
  apply h.trans hnext
  unfold answerCall
  cases hdecide : decide next.link.journal with
  | none => exact h.apart .refl
  | some call =>
      have hcalled := hperform call next (hmakes decide hmem _ call hdecide)
      dsimp only
      split
      · exact h.trans hcalled (h.apart (apart_record (fun _ => rfl) fun _ => rfl))
      · exact hcalled

theorem tell (h : Tracks Tellable R) (hperform : ∀ call e, Allowed call → R e (perform call e).2)
    {notice : Notice} {observer : Observer}
    (htellable : observer.recorded = true → Tellable observer.name notice)
    (hmakes : observer.Makes Allowed notice) (e : Engine σ) :
    R e (tell perform notice e observer) := by
  refine h.trans ?_ (h.answerCalls hperform hmakes _)
  split
  · exact h.notified e _ _ (htellable ‹_›)
  · exact h.apart .refl

theorem tellAll (h : Tracks Tellable R) (hperform : ∀ call e, Allowed call → R e (perform call e).2)
    {notice : Notice} {observers : List Observer}
    (htellable : ∀ observer ∈ observers, observer.recorded = true → Tellable observer.name notice)
    (hmakes : ∀ observer ∈ observers, observer.Makes Allowed notice) (e : Engine σ) :
    R e (observers.foldl (Engine.tell perform notice) e) :=
  List.foldlRecOn (motive := R e) _ _ (h.apart .refl) fun next hnext observer hmem =>
    h.trans hnext (h.tell hperform (htellable observer hmem) (hmakes observer hmem) next)

theorem openWith (h : Tracks Tellable R)
    (hturn : ∀ {next}, Turned e next true → R e (announce perform (.turn true) next))
    (length : Span) (target : Option Target) :
    R e (Engine.openWith perform length target e).2 := by
  cases hopen : e.isOpen with
  | true =>
      rw [openWith_of_open _ hopen]
      exact h.apart (apart_note fun _ => rfl)
  | false =>
      obtain ⟨next, hopened, hturned, -⟩ := openWith_of_closed perform hopen length target
      rw [hopened]
      exact hturn hturned

theorem closeWith (h : Tracks Tellable R)
    (hturn : ∀ {next}, Turned e next false → R e (announce perform (.turn false) next))
    {reason : Note} (hreason : ∀ isOpen, (Entry.note reason).turnsFrom isOpen = isOpen) :
    R e (Engine.closeWith perform reason e).2 := by
  cases hopen : e.isOpen with
  | true =>
      obtain ⟨next, hclosed, hturned, -⟩ := closeWith_of_open perform hopen hreason
      rw [hclosed]
      exact hturn hturned
  | false =>
      rw [closeWith_of_closed _ hopen]
      exact h.apart .refl

end Tracks

/-- A relation that holds across calls of this kind as well. -/
structure Follows (Tellable : String → Notice → Prop) (Allowed : WindowCall → Prop)
    (R : Engine σ → Engine σ → Prop) : Prop extends Tracks Tellable R where
  calling : ∀ depth call e, Allowed call → R e (performTo depth call e).2

namespace Follows

theorem notify (h : Follows Tellable Allowed R) {notice : Notice}
    (htellable : ∀ name, Tellable name notice)
    (hmakes : ∀ observer ∈ e.observers, observer.Makes Allowed notice) : R e (e.notify notice) :=
  h.tellAll (h.calling e.nesting) (fun observer _ _ => htellable observer.name) hmakes e

theorem performAll (h : Follows Tellable Allowed R) {calls : List WindowCall}
    (hcalls : ∀ call ∈ calls, Allowed call) (e : Engine σ) : R e (e.performAll calls) :=
  List.foldlRecOn (motive := R e) _ _ (h.apart .refl) fun next hnext call hmem =>
    h.trans hnext (h.calling (next.nesting + 1) call next (hcalls call hmem))

theorem consulted (h : Follows Tellable Allowed R) (hmakes : reg.Makes Allowed)
    (hconsulted : Consulted reg a b) : R a b := by
  induction hconsulted with
  | refl => exact h.apart .refl
  | note _ n hplain ih => exact h.trans ih (h.apart (apart_note hplain))
  | lookup _ address ih =>
      apply h.trans ih
      exact h.trans (h.apart (apart_registry _ _)) (h.performAll (hmakes.lookup _ address) _)
  | supports _ profile ih =>
      apply h.trans ih
      exact h.trans (h.apart (apart_registry _ _)) (h.performAll (hmakes.supports _ profile) _)

theorem of_idle (h : Tracks Tellable R) (hstays : ∀ {a b}, R a b → b.isOpen = a.isOpen)
    (isOpen : Bool) :
    Follows Tellable (WindowCall.IsIdle isOpen) fun a b => a.isOpen = isOpen → R a b where
  trans hfirst hsecond hstart :=
    h.trans (hfirst hstart) (hsecond ((hstays (hfirst hstart)).trans hstart))
  apart hapart _ := h.apart hapart
  notified e name notice htellable _ := h.notified e name notice htellable
  calling depth call e hidle hstart := h.apart (idles_performTo depth call e (hstart ▸ hidle))

end Follows

/-! ## Relations across operations -/

/-- A relation that holds across news of devices as well, and whenever the window is closed. -/
structure Lasting (Tellable : String → Notice → Prop) (Allowed : WindowCall → Prop)
    (R : Engine σ → Engine σ → Prop) : Prop extends Follows Tellable Allowed R where
  notifies : ∀ {notice}, notice.isBoundary = false → ∀ e, R e (e.notify notice)
  closing : ∀ depth {reason}, (∀ isOpen, (Entry.note reason).turnsFrom isOpen = isOpen) →
    ∀ e, R e (closeWith (performTo depth) reason e).2

namespace Lasting

/-- A relation holds across all calls if it holds across turns of the window with their notices. -/
theorem of_turns (h : Tracks Tellable R)
    (htellable : ∀ name notice, notice.isBoundary = false → Tellable name notice)
    (hturn : ∀ {perform : Performer σ}, Idles perform → (∀ call e, R e (perform call e).2) →
      ∀ {e next isOpen}, Turned e next isOpen → R e (announce perform (.turn isOpen) next)) :
    Lasting Tellable (fun _ => True) R := by
  -- The calls that observers make are performed one level further down.
  have hcalling (depth : Nat) : ∀ call e, R e (performTo depth call e).2 := by
    induction depth with
    | zero => exact fun _ _ => h.apart .refl
    | succ depth ih =>
        rintro (⟨length, target⟩ | _) e
        · exact h.openWith (fun hturned => hturn (idles_performTo depth) ih hturned) length target
        · exact h.closeWith (fun hturned => hturn (idles_performTo depth) ih hturned) fun _ => rfl
  have hfollows : Follows Tellable (fun _ => True) R :=
    ⟨h, fun depth call e _ => hcalling depth call e⟩
  exact {
    toFollows := hfollows
    notifies := fun {notice} hnotice e =>
      hfollows.notify (fun name => htellable name notice hnotice) fun observer _ =>
        observer.makes_any notice
    closing := fun depth _ hreason e =>
      h.closeWith (fun hturned => hturn (idles_performTo depth) (hcalling depth) hturned) hreason }

variable {p : Packet} {outcome : Outcome}

theorem expire (h : Lasting Tellable Allowed R) (e : Engine σ) (deadline : Instant) :
    R e (e.expire deadline).2 := by
  unfold Engine.expire
  split
  · split
    · exact h.closing _ (fun _ => rfl) e
    · exact h.apart .refl
  · exact h.apart .refl

theorem enrolment (h : Lasting Tellable Allowed R) {t : Telegram} {manufacturer : Nat}
    {profile : Profile} {registration : Registration}
    (henrolment : Enrolment reg t manufacturer profile a registration b)
    (hcompleted : ∀ {next device}, registration = .created device → a.isTargeted = true →
      next.isOpen = true → R next ({ next with state := {} }.concluded t profile device)) :
    R a b := by
  cases henrolment with
  | closed => exact h.apart (apart_note fun _ => rfl)
  | failed _ hcreate =>
      exact h.trans (h.apart (apart_create hcreate)) (h.apart (apart_note fun _ => rfl))
  | joined _ _ hcreate =>
      apply h.trans (h.apart (apart_create hcreate))
      exact h.trans (h.apart (apart_note fun _ => rfl)) (h.notifies rfl _)
  | completed hadmits htargeted hcreate =>
      have hcreated : Apart a _ := apart_create hcreate
      apply h.trans (h.apart hcreated)
      exact hcompleted rfl htargeted (hcreated.isOpen_eq.trans (isOpen_of_admits hadmits))

theorem treatment (h : Lasting Tellable Allowed R) (hmakes : reg.Makes Allowed)
    (htreatment : Treatment reg p a outcome b)
    (hcompleted : ∀ {asked next t profile device}, Pairs reg p a asked b device →
      asked.isTargeted = true → next.isOpen = true →
      R next ({ next with state := {} }.concluded t profile device)) : R a b := by
  have hregistered {asked last registration} {t manufacturer profile}
      (hparse : Telegram.ofPacket p = .ok t) (hasked : Consulted reg a asked)
      (henrolment : Enrolment reg t manufacturer profile asked registration last)
      (hafter : ∀ device, registration = .created device →
        b = last ∨ ∃ q, b = (last.sendAnswer t q .success (some device)).2) : R a last := by
    apply h.trans (h.consulted hmakes hasked)
    apply h.enrolment henrolment
    rintro next device rfl
    exact hcompleted (.intro t manufacturer profile hparse hasked henrolment (hafter device rfl))
  cases htreatment with
  | dismissed hidle hnext => exact h.consulted hmakes hnext
  | heard t device hparse hknown =>
      exact h.trans (h.consulted hmakes (.lookup .refl t.sender)) (h.notifies rfl _)
  | tried t manufacturer profile hparse hkind hnext henrolment =>
      exact hregistered hparse hnext henrolment fun _ _ => .inl rfl
  | paired t q hparse hquery hnext henrolment =>
      have hlast := hregistered hparse hnext henrolment fun _ hsame => by
        cases hsame
        exact .inr ⟨q, rfl⟩
      exact h.trans hlast (h.apart (apart_sendAnswer ..))
  | missed t q hparse hquery hnext henrolment => exact hregistered hparse hnext henrolment nofun
  | failed t q hparse hquery hnext henrolment =>
      have hlast := hregistered hparse hnext henrolment nofun
      exact h.trans hlast (h.apart (apart_sendAnswer ..))
  | refused t q hparse hquery hnext =>
      exact h.trans (h.consulted hmakes hnext) (h.apart (apart_sendAnswer ..))
  | deleted t q hparse hquery hnext hopen =>
      apply h.trans (h.consulted hmakes hnext)
      exact h.trans (h.closing _ (fun _ => rfl) _) (h.apart (apart_sendAnswer ..))

theorem operate (h : Lasting Tellable (fun _ => True) R) (e : Engine σ) (now : Instant)
    (operation : Operation)
    (hcompleted : ∀ p, operation = .handle p → ∀ {asked next t profile device},
      Pairs reg p (({ e with clock := now } : Engine σ).expire now).2 asked
        (({ e with clock := now } : Engine σ).handle reg p).2 device →
      asked.isTargeted = true → next.isOpen = true →
      R next ({ next with state := {} }.concluded t profile device)) :
    R e (e.operate reg now operation) := by
  apply h.trans (h.apart (apart_clock e now))
  cases operation with
  | openWindow length target => exact h.calling _ _ _ trivial
  | closeWindow => exact h.calling _ _ _ trivial
  | expire deadline => exact h.expire _ deadline
  | handle p =>
      apply h.trans (h.expire _ now)
      exact h.treatment reg.makes_any (treatment_handle reg p _) (hcompleted p rfl)

theorem run (h : Lasting Tellable (fun _ => True) R)
    (hcompleted : ∀ {next} t profile device, next.isOpen = true →
      R next ({ next with state := {} }.concluded t profile device))
    (e : Engine σ) (operations : List (Instant × Operation)) : R e (e.run reg operations) :=
  List.foldlRecOn (motive := R e) operations _ (h.apart .refl) fun _ hrun (now, operation) _ =>
    h.trans hrun (h.operate _ now operation fun _ _ _ _ _ _ _ _ _ => hcompleted _ _ _)

end Lasting

end Engine

end Esp3Host.TeachIn
