import Esp3Host.Proofs.Link.Traffic

/-!
# Growth

Callbacks make entries in the journal of a link and queue packets to send, and they do nothing else
to it.  A link that grew in this way has the inbox that it had before: the received packets that
wait for delivery, and the counters of what came in and of what went out again.  A transmit cycle
keeps the inbox too.
-/

namespace Esp3Host.Link

/-- The second link is the first one after some entries and some sends. -/
inductive Grown (l : Link) : Link → Prop
  | refl : Grown l l
  | record {next : Link} (h : Grown l next) (entry : Entry) : Grown l (next.record entry)
  | send {next : Link} (h : Grown l next) (priority : Priority) (p : Packet) :
      Grown l (next.send priority p)

namespace Grown

variable {a b c : Link}

theorem trans (first : Grown a b) (second : Grown b c) : Grown a c := by
  induction second with
  | refl => exact first
  | record _ entry ih => exact .record ih entry
  | send _ priority p ih => exact .send ih priority p

theorem note (h : Grown a b) (n : Note) : Grown a (b.note n) := .record h (.note n)

theorem foldl {α β : Type} {link : α → Link} {f : α → β → α}
    (h : ∀ a b, (link a).Grown (link (f a b))) (a : α) (items : List β) :
    (link a).Grown (link (items.foldl f a)) := by
  induction items generalizing a with
  | nil => exact .refl
  | cons item rest ih => exact (h a item).trans (ih (f a item))

end Grown

/-! ## Inboxes -/

structure Inbox where
  unobserved : UnobservedPolicy
  urgent : List Packet
  ordinary : List Packet
  received : Nat
  delivered : Nat
  discarded : Nat

def inbox (l : Link) : Inbox where
  unobserved := l.tuning.unobserved
  urgent := l.receivedHigh
  ordinary := l.receivedLow
  received := l.counters.framesReceived
  delivered := l.counters.delivered
  discarded := l.counters.discardedUnobserved

theorem Grown.inbox_eq {l next : Link} (h : l.Grown next) : next.inbox = l.inbox := by
  induction h with
  | refl => rfl
  | record _ entry ih => exact ih
  | send _ priority p ih =>
      rw [Link.send, sendWith_eq]
      exact ih

theorem Turn.inbox_eq {l next : Link} {now : Instant} {outcome : CycleOutcome}
    (h : l.Turn now outcome next) : next.inbox = l.inbox := by
  rw [h.next_eq]
  rfl

end Esp3Host.Link
