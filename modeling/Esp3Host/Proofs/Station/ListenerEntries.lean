import Esp3Host.Proofs.Link.Classes
import Esp3Host.Proofs.TeachIn.Callbacks

/-!
# Listeners in the journal

Listeners that record what they get leave an entry for each of their calls, and the set of listeners
leaves one for each of its answers to them.  Nothing else makes such entries: neither the link nor
the teach-in engine, whatever its observers do.
-/

namespace Esp3Host

namespace Entry

def isCall : Entry → Bool
  | ticked _ | heard _ _ => true
  | note _ | left _ _ | joined _ _ | notified _ _ | called _ _ _ => false

def isAnswer : Entry → Bool
  | left _ _ | joined _ _ => true
  | note _ | ticked _ | heard _ _ | notified _ _ | called _ _ _ => false

def isOfListener (entry : Entry) : Bool := entry.isCall || entry.isAnswer

end Entry

namespace Link

def listenerEntries (l : Link) : List Entry := l.journal.entries.filter Entry.isOfListener

def callEntries (l : Link) : List Entry := l.journal.entries.filter Entry.isCall

def answerEntries (l : Link) : List Entry := l.journal.entries.filter Entry.isAnswer

theorem callEntries_eq (l : Link) : l.callEntries = l.listenerEntries.filter Entry.isCall := by
  rw [callEntries, listenerEntries, List.filter_filter]
  congr 1
  funext entry
  rw [Entry.isOfListener]
  cases entry.isCall <;> rfl

theorem answerEntries_eq (l : Link) :
    l.answerEntries = l.listenerEntries.filter Entry.isAnswer := by
  rw [answerEntries, listenerEntries, List.filter_filter]
  congr 1
  funext entry
  rw [Entry.isOfListener]
  cases entry.isAnswer <;> cases entry.isCall <;> rfl

theorem callEntries_record (l : Link) (entry : Entry) :
    (l.record entry).callEntries = l.callEntries ++ [entry].filter Entry.isCall := by
  rw [callEntries, record, Journal.entries_add, List.filter_append, callEntries]

theorem answerEntries_record (l : Link) (entry : Entry) :
    (l.record entry).answerEntries = l.answerEntries ++ [entry].filter Entry.isAnswer := by
  rw [answerEntries, record, Journal.entries_add, List.filter_append, answerEntries]

theorem listenerEntries_record_other (l : Link) {entry : Entry} (h : entry.isOfListener = false) :
    (l.record entry).listenerEntries = l.listenerEntries := by
  rw [listenerEntries, record, Journal.entries_add, List.filter_append, listenerEntries]
  simp [h]

theorem listenerEntries_note (l : Link) (n : Note) :
    (l.note n).listenerEntries = l.listenerEntries :=
  listenerEntries_record_other l rfl

theorem listenerEntries_send (l : Link) (priority : Priority) (p : Packet) :
    (l.send priority p).listenerEntries = l.listenerEntries := by
  rw [listenerEntries, journal_send]
  exact listenerEntries_note l _

theorem listenerEntries_foldl {α β : Type} {link : α → Link} {f : α → β → α}
    (h : ∀ a b, (link (f a b)).listenerEntries = (link a).listenerEntries) (a : α)
    (items : List β) : (link (items.foldl f a)).listenerEntries = (link a).listenerEntries :=
  List.foldlRecOn (motive := fun b => (link b).listenerEntries = (link a).listenerEntries) items f
    rfl fun b hb item _ => (h b item).trans hb

/-! ## Notes of the link -/

theorem OnlyNotes.listenerEntries_eq {l next : Link} (h : OnlyNotes l next) :
    next.listenerEntries = l.listenerEntries := by
  obtain ⟨notes, hnotes⟩ := h
  have hnone : (notes.map Entry.note).filter Entry.isOfListener = [] := by
    simp [List.filter_eq_nil_iff, Entry.isOfListener, Entry.isCall, Entry.isAnswer]
  rw [listenerEntries, hnotes, List.filter_append, hnone, List.append_nil, listenerEntries]

theorem onlyNotes_write (l : Link) (p : Packet) : OnlyNotes l (l.write p) := by
  have hwritten : OnlyNotes l (l.note (.written p.encode)) := .note (.refl l) _
  unfold write
  dsimp only
  split
  · exact hwritten.trans (.note (.refl _) (.writeFailed p.kind))
  · exact hwritten

theorem onlyNotes_collect (l : Link) (now : Instant) : OnlyNotes l (l.collect now) := by
  unfold collect
  split
  · exact .refl l
  · exact .note (.refl l) _

theorem onlyNotes_dropAll (l : Link) (items : List Item) : OnlyNotes l (l.dropAll items) :=
  List.foldlRecOn (motive := OnlyNotes l) _ _ (.refl l) fun _ hnext item _ =>
    hnext.note (.exhausted item.packet)

theorem onlyNotes_turn {l next : Link} {now : Instant} {outcome : CycleOutcome}
    (h : l.Turn now outcome next) : OnlyNotes l next := by
  cases h with
  | urgent item => exact onlyNotes_write _ item.packet
  | alone | waiting => exact .refl l
  | resent current => exact .trans (.note (.refl l) _) (onlyNotes_write _ current.item.packet)
  | gaveUp current => exact .note (.refl l) (.givenUp current.item.packet)
  | idle => exact (onlyNotes_collect l now).trans (onlyNotes_dropAll _ l.sendLow)
  | started spent item =>
      refine (onlyNotes_collect l now).trans ((onlyNotes_dropAll _ spent).trans ?_)
      exact onlyNotes_write _ item.packet

end Link

namespace TeachIn.Engine

open Link (listenerEntries_note listenerEntries_record_other listenerEntries_foldl)

variable {σ : Type} {reg : Registry σ} {e next last : Engine σ} {perform : Performer σ}

/-! ## Observers -/

section

variable (hperform : ∀ call (e : Engine σ),
  (perform call e).2.link.listenerEntries = e.link.listenerEntries)

include hperform

theorem listenerEntries_answerCall (observer : Observer) (e : Engine σ) (decide : Decision) :
    (answerCall perform observer e decide).link.listenerEntries = e.link.listenerEntries := by
  unfold answerCall
  split
  · rfl
  · rename_i call _
    dsimp only
    split
    · exact (listenerEntries_record_other _ rfl).trans (hperform call e)
    · exact hperform call e

theorem listenerEntries_tell (notice : Notice) (e : Engine σ) (observer : Observer) :
    (tell perform notice e observer).link.listenerEntries = e.link.listenerEntries := by
  refine (listenerEntries_foldl (listenerEntries_answerCall hperform observer) _ _).trans ?_
  split
  · exact listenerEntries_record_other e.link rfl
  · rfl

theorem listenerEntries_announce (notice : Notice) (e : Engine σ) :
    (announce perform notice e).link.listenerEntries = e.link.listenerEntries :=
  listenerEntries_foldl (listenerEntries_tell hperform notice) e e.observers

theorem listenerEntries_openWith (length : Span) (target : Option Target) (e : Engine σ) :
    (openWith perform length target e).2.link.listenerEntries = e.link.listenerEntries := by
  unfold openWith
  split
  · exact listenerEntries_note e.link _
  · refine (listenerEntries_announce hperform .started _).trans ?_
    refine (listenerEntries_note _ _).trans ?_
    split
    · exact listenerEntries_note e.link _
    · rfl

theorem listenerEntries_closeWith (reason : Note) (e : Engine σ) :
    (closeWith perform reason e).2.link.listenerEntries = e.link.listenerEntries := by
  unfold closeWith
  split
  · exact (listenerEntries_announce hperform .ended _).trans (listenerEntries_note e.link reason)
  · rfl

end

theorem listenerEntries_performTo (depth : Nat) (call : WindowCall) (e : Engine σ) :
    (performTo depth call e).2.link.listenerEntries = e.link.listenerEntries := by
  -- Observers are told with calls performed one level further down.
  induction depth generalizing call e with
  | zero => rfl
  | succ depth ih =>
      cases call with
      | openWindow length target => exact listenerEntries_openWith ih length target e
      | closeWindow => exact listenerEntries_closeWith ih .windowClosed e

theorem listenerEntries_performAll (e : Engine σ) (calls : List WindowCall) :
    (e.performAll calls).link.listenerEntries = e.link.listenerEntries := by
  apply listenerEntries_foldl
  intro e call
  exact listenerEntries_performTo (e.nesting + 1) call e

theorem listenerEntries_notify (e : Engine σ) (notice : Notice) :
    (e.notify notice).link.listenerEntries = e.link.listenerEntries :=
  listenerEntries_announce (listenerEntries_performTo e.nesting) notice e

theorem listenerEntries_expire (e : Engine σ) (now : Instant) :
    (e.expire now).2.link.listenerEntries = e.link.listenerEntries := by
  unfold expire
  split
  · split
    · exact listenerEntries_closeWith (listenerEntries_performTo e.nesting) .windowExpired e
    · rfl
  · rfl

/-! ## Packets -/

theorem listenerEntries_create {device : Device} {result : Except DeviceError Device}
    (h : e.create reg device = (result, next)) :
    next.link.listenerEntries = e.link.listenerEntries := by
  obtain rfl : (e.create reg device).2 = next := by rw [h]
  exact listenerEntries_foldl (fun (e : Engine σ) n => listenerEntries_note e.link (.registry n))
    { e with registry := (reg.create e.registry device).2.2 } (reg.create e.registry device).2.1

theorem listenerEntries_consulted (h : Consulted reg e next) :
    next.link.listenerEntries = e.link.listenerEntries := by
  induction h with
  | refl => rfl
  | note _ n _ ih => exact (listenerEntries_note _ n).trans ih
  | lookup _ address ih => exact (listenerEntries_performAll _ _).trans ih
  | supports _ profile ih => exact (listenerEntries_performAll _ _).trans ih

theorem listenerEntries_enrolment {t : Telegram} {manufacturer : Nat} {profile : Profile}
    {registration : Registration} (h : Enrolment reg t manufacturer profile e registration last) :
    last.link.listenerEntries = e.link.listenerEntries := by
  cases h with
  | closed => exact listenerEntries_note e.link _
  | failed _ hcreate => exact (listenerEntries_note _ _).trans (listenerEntries_create hcreate)
  | joined _ _ hcreate =>
      refine (listenerEntries_notify _ _).trans ?_
      exact (listenerEntries_note _ _).trans (listenerEntries_create hcreate)
  | completed _ _ hcreate =>
      have hcreated := listenerEntries_create hcreate
      refine (listenerEntries_notify _ .ended).trans ?_
      refine (listenerEntries_note _ .windowClosed).trans ?_
      refine (listenerEntries_notify _ _).trans ?_
      exact (listenerEntries_note _ _).trans hcreated

theorem listenerEntries_sendAnswer (t : Telegram) (q : Query) (code : AnswerCode)
    (device : Option Device) (e : Engine σ) :
    (e.sendAnswer t q code device).2.link.listenerEntries = e.link.listenerEntries :=
  Link.listenerEntries_send e.link _ _

theorem listenerEntries_treatment {p : Packet} {outcome : Outcome}
    (h : Treatment reg p e outcome last) : last.link.listenerEntries = e.link.listenerEntries := by
  cases h with
  | dismissed _ hnext => exact listenerEntries_consulted hnext
  | heard t => exact (listenerEntries_notify _ _).trans (listenerEntries_performAll _ _)
  | tried _ _ _ _ _ hnext h | missed _ _ _ _ hnext h =>
      exact (listenerEntries_enrolment h).trans (listenerEntries_consulted hnext)
  | paired _ _ _ _ hnext h | failed _ _ _ _ hnext h =>
      refine (listenerEntries_sendAnswer _ _ _ _ _).trans ?_
      exact (listenerEntries_enrolment h).trans (listenerEntries_consulted hnext)
  | refused _ _ _ _ hnext =>
      exact (listenerEntries_sendAnswer _ _ _ _ _).trans (listenerEntries_consulted hnext)
  | deleted _ _ _ _ hnext =>
      refine (listenerEntries_sendAnswer _ _ _ _ _).trans ?_
      exact (listenerEntries_performTo _ .closeWindow _).trans (listenerEntries_consulted hnext)

theorem listenerEntries_handle (reg : Registry σ) (p : Packet) (e : Engine σ) :
    (e.handle reg p).2.link.listenerEntries = e.link.listenerEntries :=
  (listenerEntries_treatment (treatment_handle reg p e)).trans (listenerEntries_expire e e.clock)

end TeachIn.Engine

end Esp3Host
