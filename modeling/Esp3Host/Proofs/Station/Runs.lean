import Esp3Host.Proofs.Station.Delivery

/-!
# Runs of a station

A watched station writes down every call of a listener at the moment when the call is made, and is
otherwise the station itself.  The calls of a cycle were settled when it started: everybody who is
there is ticked, and then everybody is handed the packet that leaves the queues.
-/

namespace Esp3Host.Station

/-- Something that happens to a station, apart from what callbacks do in delivery cycles.  By
`revise` they make other requests from now on, as those of listeners with a state do. -/
inductive Act where
  | receive (source : Nat) (bytes : Bytes)
  | deliver (now : Instant)
  | listen (listener : Listener)
  | unlisten (id : Nat)
  | revise (behaviour : Nat → Listener → Listener)
  | adopt (policy : UnobservedPolicy)
  | send (priority : Priority) (p : Packet)
  | transmit (now : Instant)

variable {σ : Type} (reg : TeachIn.Registry σ)

def act (s : Station σ) : Act → Station σ
  | .receive source bytes => (s.receive source bytes).2
  | .deliver now => (s.deliver reg now).2
  | .listen listener => { s with listeners := (s.listeners.add listener).2 }
  | .unlisten id => { s with listeners := (s.listeners.remove id).2 }
  | .revise behaviour =>
      { s with listeners.entries := s.listeners.entries.map fun (id, l) => (id, behaviour id l) }
  | .adopt policy => s.setLink { s.link with tuning.unobserved := policy }
  | .send priority p => s.send priority p
  | .transmit now => (s.transmit now).2

def run (s : Station σ) (acts : List Act) : Station σ := acts.foldl (act reg) s

def fresh (engine : TeachIn.Engine σ) (tuning : Tuning) (listeners : ListenerSet)
    (receivers : Nat) : Station σ :=
  { engine := { engine with link := { tuning } }
    listeners
    sources := List.replicate receivers {} }

/-! ## Watched stations -/

inductive Call where
  | tick (now : Instant) (entry : Nat × Listener)
  | frame (p : Packet) (entry : Nat × Listener)

def Call.handed? : Call → Option (Nat × Packet)
  | tick _ _ => none
  | frame p entry => some (entry.1, p)

def handed (calls : List Call) : List (Nat × Packet) := calls.filterMap Call.handed?

/-- A station, and the calls that its listeners got, the oldest first. -/
structure Watched (σ : Type) where
  station : Station σ
  calls : List Call := []

namespace Watched

def call (make : Station σ → Nat × Listener → Station σ) (describe : Nat × Listener → Call)
    (w : Watched σ) (entry : Nat × Listener) : Watched σ :=
  ⟨make w.station entry, w.calls ++ [describe entry]⟩

/-- A delivery cycle, every call of which is written down when it is made. -/
def deliver (now : Instant) (w : Watched σ) : Bool × Watched σ :=
  let present := w.station.listeners.entries
  if present.isEmpty then
    (false, { w with station := w.station.setLink (discardUnobserved w.station.link) })
  else
    let w := present.foldl (call (tick reg now) (.tick now)) w
    match takeReceived w.station.link with
    | none => (false, w)
    | some (p, l) =>
        let w := present.foldl (call (hear reg p) (.frame p))
          { w with station := w.station.setLink l }
        (true, { w with station := w.station.setLink (countDelivered w.station.link) })

def act (w : Watched σ) : Act → Watched σ
  | .deliver now => (w.deliver reg now).2
  | a => { w with station := w.station.act reg a }

def run (w : Watched σ) (acts : List Act) : Watched σ := acts.foldl (act reg) w

end Watched

def callsIn (s : Station σ) (acts : List Act) : List Call := (Watched.run reg ⟨s, []⟩ acts).calls

/-! ## Cycles -/

def oldest (s : Station σ) : Option Packet :=
  s.link.receivedHigh.head?.or s.link.receivedLow.head?

def round (now : Instant) (s : Station σ) : List Call :=
  s.listeners.entries.map (.tick now) ++
    s.oldest.toList.flatMap fun p => s.listeners.entries.map (.frame p)

theorem Watched.foldl_call (make : Station σ → Nat × Listener → Station σ)
    (describe : Nat × Listener → Call) (present : List (Nat × Listener)) (w : Watched σ) :
    present.foldl (call make describe) w =
      ⟨present.foldl make w.station, w.calls ++ present.map describe⟩ := by
  induction present generalizing w with
  | nil => simp
  | cons entry rest ih => simp [ih, call]

theorem oldest_eq_takeReceived (s : Station σ) :
    s.oldest = (takeReceived s.link).map Prod.fst := by
  unfold oldest takeReceived
  cases s.link.receivedHigh <;> cases s.link.receivedLow <;> rfl

theorem toList_oldest (s : Station σ) :
    s.oldest.toList = (s.link.receivedHigh ++ s.link.receivedLow).take 1 := by
  unfold oldest
  cases s.link.receivedHigh with
  | cons => rfl
  | nil => cases s.link.receivedLow <;> rfl

theorem oldest_tickAll (now : Instant) (s : Station σ) : (s.tickAll reg now).oldest = s.oldest := by
  rw [oldest, receivedHigh_tickAll, receivedLow_tickAll, oldest]

theorem Watched.deliver_eq (now : Instant) (w : Watched σ) :
    w.deliver reg now =
      ((w.station.deliver reg now).1,
        ⟨(w.station.deliver reg now).2, w.calls ++ w.station.round now⟩) := by
  obtain ⟨s, calls⟩ := w
  by_cases hpresent : s.listeners.entries = []
  · simp [Watched.deliver, Station.deliver, round, hpresent]
  · have holdest := oldest_eq_takeReceived (s.tickAll reg now)
    rw [oldest_tickAll] at holdest
    rw [deliver_of_present reg now s hpresent, Watched.deliver, if_neg (by simpa using hpresent),
      round]
    simp only [Watched.foldl_call]
    change (match takeReceived (s.tickAll reg now).link with | none => _ | some (p, l) => _) = _
    cases htaken : takeReceived (s.tickAll reg now).link with
    | none =>
        rw [htaken] at holdest
        simp [holdest, tickAll]
    | some taken =>
        rw [htaken] at holdest
        simp [holdest, hand, tickAll]

/-! ## Runs -/

def Act.calls (s : Station σ) : Act → List Call
  | .deliver now => s.round now
  | _ => []

theorem Watched.act_eq (w : Watched σ) (a : Act) :
    w.act reg a = ⟨w.station.act reg a, w.calls ++ a.calls w.station⟩ := by
  cases a with
  | deliver now =>
      rw [Watched.act, Watched.deliver_eq]
      rfl
  | _ => simp [Watched.act, Act.calls]

theorem Watched.run_cons (w : Watched σ) (a : Act) (rest : List Act) :
    w.run reg (a :: rest) =
      Watched.run reg ⟨w.station.act reg a, w.calls ++ a.calls w.station⟩ rest := by
  rw [← Watched.act_eq]
  rfl

theorem Watched.run_eq (w : Watched σ) (acts : List Act) :
    w.run reg acts = ⟨w.station.run reg acts, w.calls ++ w.station.callsIn reg acts⟩ := by
  induction acts generalizing w with
  | nil => simp [Watched.run, Station.run, callsIn]
  | cons a rest ih =>
      have hcalls : w.station.callsIn reg (a :: rest) =
          a.calls w.station ++ (w.station.act reg a).callsIn reg rest := by
        rw [callsIn, Watched.run_cons, ih, List.nil_append]
      rw [Watched.run_cons, ih, hcalls, List.append_assoc]
      rfl

theorem callsIn_cons (s : Station σ) (a : Act) (rest : List Act) :
    s.callsIn reg (a :: rest) = a.calls s ++ (s.act reg a).callsIn reg rest := by
  rw [callsIn, Watched.run_cons, Watched.run_eq, List.nil_append]

@[simp] theorem callsIn_nil (s : Station σ) : s.callsIn reg [] = [] := rfl

theorem callsIn_deliver (now : Instant) (s : Station σ) :
    s.callsIn reg [.deliver now] = s.round now := by
  rw [callsIn_cons, callsIn_nil, List.append_nil, Act.calls]

theorem handed_append (calls more : List Call) :
    handed (calls ++ more) = handed calls ++ handed more :=
  List.filterMap_append

theorem handed_round (now : Instant) (s : Station σ) :
    handed (s.round now) =
      s.oldest.toList.flatMap fun p => s.listeners.entries.map fun entry => (entry.1, p) := by
  have hticks : handed (s.listeners.entries.map (.tick now)) = [] := by
    simp [handed, Call.handed?]
  have hframes (p : Packet) : handed (s.listeners.entries.map (.frame p)) =
      s.listeners.entries.map fun entry => (entry.1, p) := by
    simp [handed, Call.handed?, Function.comp_def]
  rw [round, handed_append, hticks, List.nil_append]
  cases s.oldest with
  | none => rfl
  | some p => rw [Option.toList_some, List.flatMap_singleton, List.flatMap_singleton, hframes]

theorem round_of_nobody (now : Instant) {s : Station σ} (h : s.listeners.entries = []) :
    s.round now = [] := by
  rw [round, h]
  cases s.oldest <;> rfl

end Esp3Host.Station
