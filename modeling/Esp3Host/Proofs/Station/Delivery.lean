import Esp3Host.Proofs.TeachIn.Growth
import Esp3Host.Station

/-!
# The exits of a delivery cycle

The callbacks of a cycle leave the queues of received packets alone, so what leaves the queues is
decided when the cycle starts.  `Exit` lists the ways in which a cycle can end, each with the
packets that leave in it and with the station after it, and `exit_deliver` says that a cycle always
ends in one of them.
-/

namespace Esp3Host.Station

variable {σ : Type} (reg : TeachIn.Registry σ)

/-! ## Callbacks -/

theorem grown_fulfil (name : String) (s : Station σ) (request : Request) :
    s.link.Grown (fulfil reg name s request).link := by
  cases request with
  | send priority p => exact .send .refl priority p
  | subscribe listener => exact .record .refl _
  | unsubscribe id => exact .record .refl _
  | teachIn p => exact TeachIn.Engine.grown_handle reg p s.engine
  | checkDeadline now => exact TeachIn.Engine.grown_expire s.engine now

theorem grown_requests (name : String) (s : Station σ) (requests : List Request) :
    s.link.Grown (requests.foldl (fulfil reg name) s).link :=
  Link.Grown.foldl (grown_fulfil reg name) s requests

theorem grown_tick (now : Instant) (s : Station σ) (entry : Nat × Listener) :
    s.link.Grown (tick reg now s entry).link := by
  apply Link.Grown.trans _ (grown_requests reg entry.2.name _ _)
  split
  · exact .record .refl _
  · exact .refl

theorem grown_hear (p : Packet) (s : Station σ) (entry : Nat × Listener) :
    s.link.Grown (hear reg p s entry).link := by
  apply Link.Grown.trans _ (grown_requests reg entry.2.name _ _)
  split
  · exact .record .refl _
  · exact .refl

def tickAll (now : Instant) (s : Station σ) : Station σ :=
  s.listeners.entries.foldl (tick reg now) s

def hand (present : List (Nat × Listener)) (p : Packet) (s : Station σ) : Station σ :=
  let s := present.foldl (hear reg p) s
  s.setLink (countDelivered s.link)

@[simp] theorem inbox_setLink (s : Station σ) (l : Link) : (s.setLink l).link.inbox = l.inbox := rfl

theorem inbox_tickAll (now : Instant) (s : Station σ) :
    (s.tickAll reg now).link.inbox = s.link.inbox :=
  (Link.Grown.foldl (grown_tick reg now) s s.listeners.entries).inbox_eq

theorem receivedHigh_tickAll (now : Instant) (s : Station σ) :
    (s.tickAll reg now).link.receivedHigh = s.link.receivedHigh :=
  congrArg Link.Inbox.urgent (inbox_tickAll reg now s)

theorem receivedLow_tickAll (now : Instant) (s : Station σ) :
    (s.tickAll reg now).link.receivedLow = s.link.receivedLow :=
  congrArg Link.Inbox.ordinary (inbox_tickAll reg now s)

theorem inbox_hand (present : List (Nat × Listener)) (p : Packet) (s : Station σ) :
    (s.hand reg present p).link.inbox =
      { s.link.inbox with delivered := s.link.inbox.delivered + 1 } := by
  rw [← (Link.Grown.foldl (grown_hear reg p) s present).inbox_eq]
  rfl

/-! ## Departures -/

inductive Departure where
  | delivered (p : Packet)
  | discarded (p : Packet)
  deriving DecidableEq, Repr

namespace Departure

def packet : Departure → Packet
  | delivered p | discarded p => p

def isDelivered : Departure → Bool
  | delivered _ => true
  | discarded _ => false

@[simp] theorem packet_delivered (p : Packet) : (delivered p).packet = p := rfl

@[simp] theorem packet_discarded (p : Packet) : (discarded p).packet = p := rfl

@[simp] theorem isDelivered_delivered (p : Packet) : (delivered p).isDelivered = true := rfl

@[simp] theorem isDelivered_discarded (p : Packet) : (discarded p).isDelivered = false := rfl

end Departure

def departures (s : Station σ) : List Departure :=
  let waiting := s.link.receivedHigh ++ s.link.receivedLow
  if s.listeners.entries.isEmpty then
    match s.link.tuning.unobserved with
    | .drop => waiting.map .discarded
    | .retain => []
  else (waiting.take 1).map .delivered

/-! ## Taking and discarding -/

theorem inbox_discardUnobserved {l : Link} (h : l.tuning.unobserved = .drop) :
    (discardUnobserved l).inbox =
      { l.inbox with
        urgent := []
        ordinary := []
        discarded := l.inbox.discarded + (l.inbox.urgent.length + l.inbox.ordinary.length) } := by
  obtain ⟨_, _, _, high, low, _, _, _, _, _⟩ := l
  simp only at h
  cases high <;> cases low <;> simp [discardUnobserved, h, Link.inbox, Link.note, Link.record]

theorem inbox_takeUrgent {l : Link} {i : Link.Inbox} {rest : List Packet} (h : l.inbox = i) :
    ({ l with receivedHigh := rest } : Link).inbox = { i with urgent := rest } :=
  h ▸ rfl

theorem inbox_takeOrdinary {l : Link} {i : Link.Inbox} {rest : List Packet} (h : l.inbox = i) :
    ({ l with receivedLow := rest } : Link).inbox = { i with ordinary := rest } :=
  h ▸ rfl

theorem takeReceived_of_urgent {l : Link} {p : Packet} {rest : List Packet}
    (h : l.receivedHigh = p :: rest) :
    takeReceived l = some (p, { l with receivedHigh := rest }) := by
  simp [takeReceived, h]

theorem takeReceived_of_ordinary {l : Link} {p : Packet} {rest : List Packet}
    (hhigh : l.receivedHigh = []) (hlow : l.receivedLow = p :: rest) :
    takeReceived l = some (p, { l with receivedLow := rest }) := by
  simp [takeReceived, hhigh, hlow]

theorem takeReceived_of_empty {l : Link} (hhigh : l.receivedHigh = [])
    (hlow : l.receivedLow = []) : takeReceived l = none := by
  simp [takeReceived, hhigh, hlow]

/-! ## The exits -/

/-- What leaves in a cycle and what comes of the cycle, one constructor for each exit. -/
inductive Exit (now : Instant) (s : Station σ) : List Departure → Bool × Station σ → Prop
  | dropped (hnobody : s.listeners.entries = []) (hpolicy : s.link.tuning.unobserved = .drop) :
      Exit now s ((s.link.receivedHigh ++ s.link.receivedLow).map .discarded)
        (false, s.setLink (discardUnobserved s.link))
  | retained (hnobody : s.listeners.entries = []) (hpolicy : s.link.tuning.unobserved = .retain) :
      Exit now s [] (false, s)
  | silent (hpresent : s.listeners.entries ≠ []) (hhigh : s.link.receivedHigh = [])
      (hlow : s.link.receivedLow = []) :
      Exit now s [] (false, s.tickAll reg now)
  | urgent (p rest) (hpresent : s.listeners.entries ≠ [])
      (hhigh : s.link.receivedHigh = p :: rest) :
      Exit now s [.delivered p]
        (true, ((s.tickAll reg now).setLink
          { (s.tickAll reg now).link with receivedHigh := rest }).hand reg s.listeners.entries p)
  | ordinary (p rest) (hpresent : s.listeners.entries ≠ []) (hhigh : s.link.receivedHigh = [])
      (hlow : s.link.receivedLow = p :: rest) :
      Exit now s [.delivered p]
        (true, ((s.tickAll reg now).setLink
          { (s.tickAll reg now).link with receivedLow := rest }).hand reg s.listeners.entries p)

theorem deliver_of_nobody (now : Instant) (s : Station σ) (h : s.listeners.entries = []) :
    s.deliver reg now = (false, s.setLink (discardUnobserved s.link)) := by
  simp [deliver, h]

theorem deliver_of_present (now : Instant) (s : Station σ) (h : s.listeners.entries ≠ []) :
    s.deliver reg now =
      match takeReceived (s.tickAll reg now).link with
      | none => (false, s.tickAll reg now)
      | some (p, l) =>
          (true, ((s.tickAll reg now).setLink l).hand reg s.listeners.entries p) := by
  rw [deliver, if_neg (by simpa using h)]
  rfl

theorem exit_deliver (now : Instant) (s : Station σ) :
    Exit reg now s s.departures (s.deliver reg now) := by
  by_cases hpresent : s.listeners.entries = []
  · rw [deliver_of_nobody reg now s hpresent, departures, if_pos (by simp [hpresent])]
    cases hpolicy : s.link.tuning.unobserved with
    | drop => exact .dropped hpresent hpolicy
    | retain =>
        simp only [discardUnobserved, hpolicy]
        exact .retained hpresent hpolicy
  · -- Ticks leave the queues alone: what is taken after them was waiting before them.
    have hhigh := receivedHigh_tickAll reg now s
    have hlow := receivedLow_tickAll reg now s
    rw [deliver_of_present reg now s hpresent, departures, if_neg (by simp [hpresent])]
    cases hurgent : s.link.receivedHigh with
    | cons p rest =>
        rw [takeReceived_of_urgent (hhigh.trans hurgent)]
        exact .urgent p rest hpresent hurgent
    | nil =>
        cases hordinary : s.link.receivedLow with
        | cons p rest =>
            rw [takeReceived_of_ordinary (hhigh.trans hurgent) (hlow.trans hordinary)]
            exact .ordinary p rest hpresent hurgent hordinary
        | nil =>
            rw [takeReceived_of_empty (hhigh.trans hurgent) (hlow.trans hordinary)]
            exact .silent hpresent hurgent hordinary

end Esp3Host.Station
