import Esp3Host.Proofs.TeachIn.Asides
import Esp3Host.Proofs.TeachIn.Callbacks
import Esp3Host.Proofs.TeachIn.Records

/-!
# Devices found

Observers are told of a device that is found when it has been created, and at no other time: nothing
that observers or registries call leads to such a notice.
-/

namespace Esp3Host

def Entry.finds : Entry → List (String × Device)
  | .notified observer notice => (notice.found?.map fun device => (observer, device)).toList
  | _ => []

def Journal.finds (j : Journal) : List (String × Device) := j.entries.flatMap Entry.finds

theorem Journal.finds_add (j : Journal) (entry : Entry) :
    (j.add entry).finds = j.finds ++ entry.finds := by
  simp [finds]

namespace TeachIn.Engine

variable {σ : Type}

def finds (e : Engine σ) : List (String × Device) := e.link.journal.finds

def findsOf (e : Engine σ) (notice : Notice) : List (String × Device) :=
  (e.observers.filter Observer.recorded).flatMap fun observer =>
    (Entry.notified observer.name notice).finds

theorem findsOf_eq_nil (e : Engine σ) {notice : Notice} (h : notice.found? = none) :
    e.findsOf notice = [] := by
  simp [findsOf, Entry.finds, h]

theorem finds_record (e : Engine σ) (entry : Entry) :
    (e.record entry).finds = e.finds ++ entry.finds :=
  Journal.finds_add e.link.journal entry

theorem finds_note (e : Engine σ) (n : Note) : (e.note n).finds = e.finds :=
  (finds_record e (.note n)).trans (List.append_nil _)

theorem finds_sendAnswer (t : Telegram) (q : Query) (code : AnswerCode) (device : Option Device)
    (e : Engine σ) : (e.sendAnswer t q code device).2.finds = e.finds := by
  rw [sendAnswer, finds, Link.journal_send, Journal.finds_add]
  exact List.append_nil _

/-! ## Calls of observers -/

def FindsNothing (perform : Performer σ) : Prop := ∀ call e, (perform call e).2.finds = e.finds

section

variable {perform : Performer σ}

theorem finds_answerCall (h : FindsNothing perform) (observer : Observer) (e : Engine σ)
    (decide : Decision) : (answerCall perform observer e decide).finds = e.finds := by
  unfold answerCall
  split
  · rfl
  · rename_i call _
    dsimp only
    split
    · rw [finds_record, h call e]
      exact List.append_nil _
    · exact h call e

theorem finds_tell (h : FindsNothing perform) (notice : Notice) (e : Engine σ)
    (observer : Observer) :
    (tell perform notice e observer).finds =
      e.finds ++ if observer.recorded then (Entry.notified observer.name notice).finds else [] := by
  have hcalls (start : Engine σ) (decisions : List Decision) :
      (answerCalls perform observer start decisions).finds = start.finds :=
    List.foldlRecOn (motive := fun next : Engine σ => next.finds = start.finds) _ _ rfl
      fun next hnext decide _ => (finds_answerCall h observer next decide).trans hnext
  rw [tell, hcalls]
  split
  · exact finds_record e _
  · exact (List.append_nil _).symm

theorem finds_announce (h : FindsNothing perform) (notice : Notice) (e : Engine σ) :
    (announce perform notice e).finds = e.finds ++ e.findsOf notice := by
  unfold announce findsOf
  -- The observers are told in turn, and what each of them calls finds nothing.
  generalize e.observers = observers
  induction observers generalizing e with
  | nil => simp
  | cons observer rest ih =>
      rw [List.foldl_cons, ih, finds_tell h]
      cases hrecorded : observer.recorded <;> simp [hrecorded]

theorem finds_openWith (h : FindsNothing perform) (length : Span) (target : Option Target)
    (e : Engine σ) : (openWith perform length target e).2.finds = e.finds := by
  unfold openWith
  split
  · exact finds_note e _
  · rw [finds_announce h, findsOf_eq_nil _ rfl, List.append_nil, finds_note]
    split
    · exact finds_note e _
    · rfl

theorem finds_closeWith (h : FindsNothing perform) (reason : Note) (e : Engine σ) :
    (closeWith perform reason e).2.finds = e.finds := by
  unfold closeWith
  split
  · rw [finds_announce h, findsOf_eq_nil _ rfl, List.append_nil, finds_note]
    rfl
  · rfl

end

theorem findsNothing_performTo (depth : Nat) : FindsNothing (performTo depth : Performer σ) := by
  -- Starts and ends, of which alone calls lead to notices, tell of no device.
  induction depth with
  | zero => exact fun _ _ => rfl
  | succ depth ih =>
      rintro (⟨length, target⟩ | _) e
      · exact finds_openWith ih length target e
      · exact finds_closeWith ih .windowClosed e

theorem finds_notify (e : Engine σ) (notice : Notice) :
    (e.notify notice).finds = e.finds ++ e.findsOf notice :=
  finds_announce (findsNothing_performTo e.nesting) notice e

/-! ## What an engine comes to find -/

/--
Observers are told that these devices were found; no packet is queued.  The registry and the window
may change.
-/
structure Yields (before after : Engine σ) (found : List Device) : Prop where
  observers : after.observers = before.observers
  finds : after.finds = before.finds ++ found.flatMap fun device => before.findsOf (.found device)
  link : after.link = { before.link with journal := after.link.journal }

variable {a b c e : Engine σ} {reg : Registry σ} {found later : List Device}

namespace Yields

theorem trans (hfirst : Yields a b found) (hsecond : Yields b c later) :
    Yields a c (found ++ later) where
  observers := hsecond.observers.trans hfirst.observers
  finds := by
    have hfindsOf : b.findsOf = a.findsOf := by
      funext notice
      rw [findsOf, hfirst.observers, findsOf]
    rw [hsecond.finds, hfirst.finds, hfindsOf, List.flatMap_append, List.append_assoc]
  link := by
    rw [hsecond.link, hfirst.link]

theorem of_finds (hobservers : b.observers = a.observers) (hfinds : b.finds = a.finds)
    (hlink : b.link = { a.link with journal := b.link.journal }) : Yields a b [] :=
  ⟨hobservers, hfinds.trans (List.append_nil _).symm, hlink⟩

theorem refl : Yields e e [] := .of_finds rfl rfl rfl

theorem then_nothing (hfirst : Yields a b found) (hsecond : Yields b c []) : Yields a c found :=
  List.append_nil found ▸ hfirst.trans hsecond

theorem note (h : Yields a b found) (n : Note) : Yields a (b.note n) found :=
  h.then_nothing (.of_finds rfl (finds_note b n) rfl)

theorem close (h : Yields a b found) : Yields a { b with state := {} } found :=
  h.then_nothing (.of_finds rfl rfl rfl)

end Yields

theorem Aside.yields (h : Aside a b) (hfinds : b.finds = a.finds) : Yields a b [] :=
  .of_finds h.observers_eq hfinds h.link_eq

theorem yields_performTo (depth : Nat) (call : WindowCall) (e : Engine σ) :
    Yields e (performTo depth call e).2 [] :=
  (asides_performTo depth call e).yields (findsNothing_performTo depth call e)

theorem yields_performAll (e : Engine σ) (calls : List WindowCall) :
    Yields e (e.performAll calls) [] :=
  List.foldlRecOn (motive := fun next => Yields e next []) _ _ .refl fun next hnext call _ =>
    hnext.trans (yields_performTo (next.nesting + 1) call next)

theorem yields_expire (e : Engine σ) (now : Instant) : Yields e (e.expire now).2 [] := by
  apply (aside_expire e now).yields
  unfold expire
  split
  · split
    · exact finds_closeWith (findsNothing_performTo e.nesting) .windowExpired e
    · rfl
  · rfl

theorem yields_found (e : Engine σ) (device : Device) :
    Yields e (e.notify (.found device)) [device] where
  observers := (aside_notify e _).observers_eq
  finds := by simp [finds_notify]
  link := (aside_notify e _).link_eq

theorem yields_notify (e : Engine σ) {notice : Notice} (h : notice.found? = none) :
    Yields e (e.notify notice) [] := by
  apply (aside_notify e notice).yields
  rw [finds_notify, findsOf_eq_nil e h, List.append_nil]

/-! ## Questions to the registry -/

theorem yields_lookup (address : Address) (e : Engine σ) :
    Yields e (e.lookup reg address).2 [] := by
  have hcalled := yields_performAll
    { e with registry := (reg.lookup e.registry address).next } (reg.lookup e.registry address).calls
  exact ⟨hcalled.observers, hcalled.finds, hcalled.link⟩

theorem yields_supports (profile : Profile) (e : Engine σ) :
    Yields e (e.supports reg profile).2 [] := by
  have hcalled := yields_performAll
    { e with registry := (reg.supports e.registry profile).next }
    (reg.supports e.registry profile).calls
  exact ⟨hcalled.observers, hcalled.finds, hcalled.link⟩

theorem yields_create {device : Device} {result : Except DeviceError Device}
    (h : a.create reg device = (result, b)) : Yields a b [] := by
  obtain rfl : (a.create reg device).2 = b := by rw [h]
  exact List.foldlRecOn (motive := fun next => Yields a next []) _ _ (.of_finds rfl rfl rfl)
    fun _ hnext n _ => hnext.note (.registry n)

theorem yields_consulted (h : Consulted reg a b) : Yields a b [] := by
  induction h with
  | refl => exact .refl
  | note _ n _ ih => exact ih.note n
  | lookup _ address ih => exact ih.trans (yields_lookup address _)
  | supports _ profile ih => exact ih.trans (yields_supports profile _)

theorem yields_enrolment {t : Telegram} {manufacturer : Nat} {profile : Profile}
    {registration : Registration} (h : Enrolment reg t manufacturer profile a registration b) :
    Yields a b registration.outcome.created?.toList := by
  cases h with
  | closed => exact .note .refl _
  | failed _ hcreate => exact (yields_create hcreate).note _
  | joined _ _ hcreate => exact ((yields_create hcreate).note _).trans (yields_found _ _)
  | @completed next device _ _ hcreate =>
      have hlearned := (yields_create hcreate).close.note (.learned t.sender profile t.kind)
      have hfound := hlearned.trans (yields_found _ device)
      exact (hfound.note .windowClosed).then_nothing (yields_notify _ rfl)

theorem Yields.queued_eq (h : Yields a b found) (operation : Operation) :
    (Step.mk a operation b).queued = [] := by
  rw [Step.queued, h.link]
  simp

theorem Yields.queued_sendAnswer (h : Yields a b found) (operation : Operation) (t : Telegram)
    (q : Query) (code : AnswerCode) (device : Option Device) :
    (Step.mk a operation (b.sendAnswer t q code device).2).queued = [q.answer code t.sender] := by
  rw [Step.queued, sendAnswer, Link.send, Link.sendWith_eq, h.link]
  cases q.responseRequired <;> simp

end TeachIn.Engine

end Esp3Host
