import Esp3Host.Proofs.Link.Reception
import Esp3Host.Proofs.Link.Turns

/-!
# What is handed to the line

Every write is told in the journal before the line takes or refuses the frame.  The frames that were
handed over are therefore known also where the line refused them, and the line's own frames grow by
those that a cycle hands over, unless it refuses them.
-/

namespace Esp3Host

def Note.frame? : Note → Option Bytes
  | .written frame => some frame
  | _ => none

/-- The frames that were handed to the line so far, taken or refused. -/
def Journal.handed (j : Journal) : List Bytes := j.notes.filterMap Note.frame?

@[simp] theorem Journal.handed_add (j : Journal) (n : Note) :
    (j.add (.note n)).handed = j.handed ++ n.frame?.toList := by
  cases hframe : n.frame? <;> simp [handed, notes, hframe]

def CycleOutcome.frames (outcome : CycleOutcome) (l next : Link) : List Bytes :=
  match outcome with
  | sentHigh => (l.sendHigh.head?.map fun item => item.packet.encode).toList
  | sentLow | retransmitted =>
      (next.outstanding.map fun current => current.item.packet.encode).toList
  | idle | waiting | gaveUp => []

namespace Link

theorem handed_write (l : Link) (p : Packet) :
    (l.write p).journal.handed = l.journal.handed ++ [p.encode] := by
  obtain ⟨_, _, _, _, _, _, _, ⟨frames, failing⟩, _, _⟩ := l
  cases failing <;> simp [write, note, record, Note.frame?]

theorem handed_writeHigh (l : Link) (item : Item) :
    (l.writeHigh item).journal.handed = l.journal.handed ++ [item.packet.encode] :=
  handed_write l item.packet

theorem handed_beginExchange (l : Link) (now : Instant) (item : Item) (rest : List Item) :
    (l.beginExchange now item rest).journal.handed =
      l.journal.handed ++ [item.packet.encode] :=
  handed_write { l with sendLow := rest } item.packet

theorem handed_resend (l : Link) (now : Instant) (current : Exchange) :
    (l.resend now current).journal.handed = l.journal.handed ++ [current.item.packet.encode] := by
  simp [resend, handed_write, note, record, Note.frame?]

theorem handed_giveUp (l : Link) (current : Exchange) :
    (l.giveUp current).journal.handed = l.journal.handed := by
  simp [giveUp, countFailure, release, note, record, Note.frame?]

theorem handed_collect (l : Link) (now : Instant) :
    (l.collect now).journal.handed = l.journal.handed := by
  unfold collect
  split <;> simp [note, record, Note.frame?]

theorem handed_dropAll (l : Link) (items : List Item) :
    (l.dropAll items).journal.handed = l.journal.handed := by
  induction items generalizing l with
  | nil => rfl
  | cons item rest ih =>
      change ((l.dropExhausted item).dropAll rest).journal.handed = _
      rw [ih]
      simp [dropExhausted, countFailure, note, record, Note.frame?]

def handedUntil (l next : Link) : List Bytes := next.journal.handed.drop l.journal.handed.length

theorem handedUntil_of_append {l next : Link} {frames : List Bytes}
    (h : next.journal.handed = l.journal.handed ++ frames) : l.handedUntil next = frames := by
  rw [handedUntil, h, List.drop_left]

theorem Turn.handed_eq {l next : Link} {now : Instant} {outcome : CycleOutcome}
    (hturn : l.Turn now outcome next) :
    next.journal.handed = l.journal.handed ++ outcome.frames l next := by
  cases hturn with
  | urgent item rest hhigh =>
      rw [handed_writeHigh, CycleOutcome.frames, hhigh]
      rfl
  | alone | waiting => exact (List.append_nil _).symm
  | resent current =>
      rw [handed_resend, resend_eq]
      rfl
  | gaveUp current => exact (handed_giveUp l current).trans (List.append_nil _).symm
  | idle =>
      have hnothing := handed_dropAll (l.collect now) l.sendLow
      rw [handed_collect] at hnothing
      exact hnothing.trans (List.append_nil _).symm
  | started spent item rest =>
      rw [handed_beginExchange, beginExchange_eq, handed_dropAll, handed_collect]
      rfl

theorem Turn.line_eq {l next : Link} {now : Instant} {outcome : CycleOutcome}
    (hturn : l.Turn now outcome next) :
    next.line.frames =
        l.line.frames ++ (if l.line.failing then [] else outcome.frames l next) ∧
      next.counters.writeErrors =
        l.counters.writeErrors +
          if l.line.failing then (outcome.frames l next).length else 0 := by
  cases hturn with
  | urgent item rest hhigh =>
      rw [writeHigh_eq, CycleOutcome.frames, hhigh]
      exact ⟨rfl, rfl⟩
  | alone | waiting => simp [CycleOutcome.frames]
  | resent current =>
      rw [resend_eq]
      exact ⟨rfl, rfl⟩
  | gaveUp current =>
      rw [giveUp_eq]
      simp [CycleOutcome.frames]
  | idle =>
      rw [dropAll_eq, collect_eq]
      simp [CycleOutcome.frames]
  | started spent item rest =>
      rw [beginExchange_eq, dropAll_eq, collect_eq]
      exact ⟨rfl, rfl⟩

/-! ## Sending and receiving hand nothing over -/

theorem handed_sendWith (l : Link) (attempts : Nat) (priority : Priority) (p : Packet) :
    (l.sendWith attempts priority p).journal.handed = l.journal.handed := by
  cases priority <;> simp [sendWith, enqueue, note, record, Note.frame?]

theorem handed_acceptResponse (l : Link) :
    l.acceptResponse.journal.handed = l.journal.handed := by
  obtain ⟨_, _, _, _, _, held, _, _, _, _⟩ := l
  cases held <;> simp [acceptResponse, release, note, record, Note.frame?]

theorem handed_accept (l : Link) (p : Packet) :
    (l.accept p).journal.handed = l.journal.handed := by
  simp only [accept, enqueueReceived_eq]
  split <;> simp [handed_acceptResponse, note, record, Note.frame?]

theorem handed_foldl_take (l : Link) (pending : Nat) (reports : List Report) :
    (reports.foldl (take pending) l).journal.handed = l.journal.handed := by
  induction reports generalizing l with
  | nil => rfl
  | cons report rest ih =>
      rw [List.foldl_cons, ih]
      cases report with
      | error cause => simp [take, reject, note, record, Note.frame?]
      | ok p => exact handed_accept l p

theorem handed_receive (l : Link) (source : Assembler) (bytes : Bytes) :
    (l.receive source bytes).2.2.journal.handed = l.journal.handed :=
  handed_foldl_take _ _ _

end Link

end Esp3Host
