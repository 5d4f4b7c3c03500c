import Esp3Host.Proofs.Station.ListenerEntries
import Esp3Host.Proofs.Station.Registrations
import Esp3Host.Proofs.Station.Runs

/-!
# What calls of listeners bring about

The calls of the set of listeners that a cycle brings about were settled when it started, as the
calls of its listeners were.  The journal has the entries of the calls of those listeners that
record them, and the answers of the set to listeners.
-/

namespace Esp3Host

def ListenerSet.Deed.entry? : ListenerSet.Deed → Option Entry
  | joined (some asker) id _ => some (.joined asker id)
  | left (some asker) _ done => some (.left asker done)
  | joined none _ _ | left none _ _ | revised _ => none

def Request.setCalls (name : String) : Request → List ListenerSet.Call
  | subscribe listener => [.add (some name) listener]
  | unsubscribe id => [.remove (some name) id]
  | send _ _ | teachIn _ | checkDeadline _ => []

namespace Station

variable {σ : Type} (reg : TeachIn.Registry σ)

def tickEntries (entry : Nat × Listener) : List Entry :=
  if entry.2.recordsTicks then [.ticked entry.2.name] else []

def frameEntries (p : Packet) (entry : Nat × Listener) : List Entry :=
  if entry.2.recordsFrames then [.heard entry.2.name p] else []

namespace Call

def id : Call → Nat
  | tick _ entry | frame _ entry => entry.1

def entries : Call → List Entry
  | tick _ entry => tickEntries entry
  | frame p entry => frameEntries p entry

def setCalls : Call → List ListenerSet.Call
  | tick now entry =>
      (entry.2.onTick entry.1 now).flatMap (Request.setCalls entry.2.name)
  | frame p entry =>
      (entry.2.onFrame entry.1 p).flatMap (Request.setCalls entry.2.name)

end Call

/-! ## What listeners are engaged in -/

def Act.setCalls (s : Station σ) : Act → List ListenerSet.Call
  | .deliver now => (s.round now).flatMap Call.setCalls
  | .listen listener => [.add none listener]
  | .unlisten id => [.remove none id]
  | .revise behaviour => [.revise behaviour]
  | .receive _ _ | .adopt _ | .send _ _ | .transmit _ => []

def setCallsIn (s : Station σ) : List Act → List ListenerSet.Call
  | [] => []
  | a :: rest => a.setCalls s ++ (s.act reg a).setCallsIn rest

/--
What happens to the listeners between two states of a station: these entries about their calls are
made, their set is called like this, and listeners get its answers.
-/
structure Engaged (s next : Station σ) (entries : List Entry) (calls : List ListenerSet.Call) :
    Prop where
  listeners : next.listeners = (s.listeners.performAll calls).2
  callEntries : next.link.callEntries = s.link.callEntries ++ entries
  answerEntries : next.link.answerEntries =
    s.link.answerEntries ++ (s.listeners.performAll calls).1.filterMap ListenerSet.Deed.entry?

namespace Engaged

variable {s next last : Station σ} {entries more : List Entry}
  {calls later : List ListenerSet.Call}

theorem idle (hlisteners : next.listeners = s.listeners)
    (hentries : next.link.listenerEntries = s.link.listenerEntries) : Engaged s next [] [] where
  listeners := hlisteners
  callEntries := by
    rw [Link.callEntries_eq, hentries, ← Link.callEntries_eq, List.append_nil]
  answerEntries := by
    rw [Link.answerEntries_eq, hentries, ← Link.answerEntries_eq]
    exact (List.append_nil _).symm

theorem trans (first : Engaged s next entries calls) (second : Engaged next last more later) :
    Engaged s last (entries ++ more) (calls ++ later) where
  listeners := by
    rw [second.listeners, first.listeners, ListenerSet.performAll_append]
  callEntries := by
    rw [second.callEntries, first.callEntries, List.append_assoc]
  answerEntries := by
    rw [second.answerEntries, first.answerEntries, first.listeners, ListenerSet.performAll_append,
      List.filterMap_append, List.append_assoc]

theorem foldl {α : Type} {f : Station σ → α → Station σ} {entries : α → List Entry}
    {calls : α → List ListenerSet.Call} (h : ∀ s a, Engaged s (f s a) (entries a) (calls a))
    (s : Station σ) (items : List α) :
    Engaged s (items.foldl f s) (items.flatMap entries) (items.flatMap calls) := by
  induction items generalizing s with
  | nil => exact idle rfl rfl
  | cons item rest ih =>
      rw [List.flatMap_cons, List.flatMap_cons]
      exact (h s item).trans (ih (f s item))

theorem changed (h : Engaged s next entries calls) : s.listeners.Changed next.listeners := by
  rw [h.listeners]
  exact s.listeners.changed_performAll calls

end Engaged

theorem engaged_fulfil (name : String) (s : Station σ) (request : Request) :
    Engaged s (fulfil reg name s request) [] (request.setCalls name) := by
  cases request with
  | send priority p => exact .idle rfl (Link.listenerEntries_send s.link priority p)
  | subscribe listener =>
      exact ⟨rfl, Link.callEntries_record s.link _, Link.answerEntries_record s.link _⟩
  | unsubscribe id =>
      exact ⟨rfl, Link.callEntries_record s.link _, Link.answerEntries_record s.link _⟩
  | teachIn p => exact .idle rfl (TeachIn.Engine.listenerEntries_handle reg p s.engine)
  | checkDeadline now => exact .idle rfl (TeachIn.Engine.listenerEntries_expire s.engine now)

theorem engaged_requests (name : String) (s : Station σ) (requests : List Request) :
    Engaged s (requests.foldl (fulfil reg name) s) []
      (requests.flatMap (Request.setCalls name)) := by
  have hsilent : requests.flatMap (fun _ => ([] : List Entry)) = [] :=
    List.flatMap_eq_nil_iff.mpr fun _ _ => rfl
  rw [← hsilent]
  exact .foldl (engaged_fulfil reg name) s requests

theorem engaged_recorded (name : String) (s : Station σ) (records : Bool) {entry : Entry}
    (hcall : entry.isCall = true) (requests : List Request) :
    Engaged s (requests.foldl (fulfil reg name) (if records then s.record entry else s))
      (if records then [entry] else []) (requests.flatMap (Request.setCalls name)) := by
  have hanswer : entry.isAnswer = false := by
    cases entry with
    | ticked | heard => rfl
    | note | left | joined | notified | called => cases hcall
  have hrecorded : Engaged s (if records then s.record entry else s)
      (if records then [entry] else []) [] := by
    cases records with
    | false => exact .idle rfl rfl
    | true =>
        refine ⟨rfl, (Link.callEntries_record s.link entry).trans ?_,
          (Link.answerEntries_record s.link entry).trans ?_⟩
        · simp [hcall]
        · simp [hanswer, ListenerSet.performAll]
  simpa only [List.append_nil, List.nil_append] using
    hrecorded.trans (engaged_requests reg name _ requests)

theorem engaged_tick (now : Instant) (s : Station σ) (entry : Nat × Listener) :
    Engaged s (tick reg now s entry) (Call.tick now entry).entries
      (Call.tick now entry).setCalls :=
  engaged_recorded reg entry.2.name s entry.2.recordsTicks rfl _

theorem engaged_hear (p : Packet) (s : Station σ) (entry : Nat × Listener) :
    Engaged s (hear reg p s entry) (Call.frame p entry).entries (Call.frame p entry).setCalls :=
  engaged_recorded reg entry.2.name s entry.2.recordsFrames rfl _

theorem engaged_tickAll (now : Instant) (s : Station σ) :
    Engaged s (s.tickAll reg now) ((s.listeners.entries.map (.tick now)).flatMap Call.entries)
      ((s.listeners.entries.map (.tick now)).flatMap Call.setCalls) := by
  rw [List.flatMap_map, List.flatMap_map]
  exact .foldl (engaged_tick reg now) s s.listeners.entries

theorem engaged_hand (present : List (Nat × Listener)) (p : Packet) (s : Station σ) :
    Engaged s (s.hand reg present p) ((present.map (.frame p)).flatMap Call.entries)
      ((present.map (.frame p)).flatMap Call.setCalls) := by
  rw [List.flatMap_map, List.flatMap_map]
  have hheard := Engaged.foldl (engaged_hear reg p) s present
  exact ⟨hheard.listeners, hheard.callEntries, hheard.answerEntries⟩

theorem engaged_handed (now : Instant) {s : Station σ} {p : Packet} (h : s.oldest = some p)
    {l : Link} (hjournal : l.journal = (s.tickAll reg now).link.journal) :
    Engaged s (((s.tickAll reg now).setLink l).hand reg s.listeners.entries p)
      ((s.round now).flatMap Call.entries) ((s.round now).flatMap Call.setCalls) := by
  have htaken : Engaged (s.tickAll reg now) ((s.tickAll reg now).setLink l) [] [] := by
    refine .idle rfl ?_
    change l.listenerEntries = (s.tickAll reg now).link.listenerEntries
    rw [Link.listenerEntries, hjournal, Link.listenerEntries]
  rw [round, h, Option.toList_some, List.flatMap_singleton, List.flatMap_append,
    List.flatMap_append]
  exact (engaged_tickAll reg now s).trans (htaken.trans (engaged_hand reg _ p _))

theorem listenerEntries_discardUnobserved (l : Link) :
    (discardUnobserved l).listenerEntries = l.listenerEntries := by
  unfold discardUnobserved
  split
  · rfl
  · dsimp only
    split
    · rfl
    · exact Link.listenerEntries_note _ _

theorem engaged_exit {now : Instant} {s : Station σ} {leaving : List Departure}
    {result : Bool × Station σ} (h : Exit reg now s leaving result) :
    Engaged s result.2 ((s.round now).flatMap Call.entries)
      ((s.round now).flatMap Call.setCalls) := by
  cases h with
  | dropped hnobody =>
      rw [round_of_nobody now hnobody]
      exact .idle rfl (listenerEntries_discardUnobserved s.link)
  | retained hnobody =>
      rw [round_of_nobody now hnobody]
      exact .idle rfl rfl
  | silent _ hhigh hlow =>
      have hround : s.round now = s.listeners.entries.map (.tick now) := by
        simp [round, oldest, hhigh, hlow]
      rw [hround]
      exact engaged_tickAll reg now s
  | urgent p rest _ hhigh => exact engaged_handed reg now (by simp [oldest, hhigh]) rfl
  | ordinary p rest _ hhigh hlow =>
      exact engaged_handed reg now (by simp [oldest, hhigh, hlow]) rfl

theorem engaged_act (s : Station σ) (a : Act) :
    Engaged s (s.act reg a) ((a.calls s).flatMap Call.entries) (a.setCalls s) := by
  cases a with
  | deliver now => exact engaged_exit reg (exit_deliver reg now s)
  | receive source bytes =>
      exact .idle rfl (s.link.onlyNotes_receive _ bytes).listenerEntries_eq
  | send priority p => exact .idle rfl (s.link.listenerEntries_send priority p)
  | transmit now => exact .idle rfl (Link.onlyNotes_turn (s.link.turn_cycle now)).listenerEntries_eq
  | adopt => exact .idle rfl rfl
  | listen | unlisten | revise =>
      exact ⟨rfl, (List.append_nil _).symm, (List.append_nil _).symm⟩

theorem engaged_run (s : Station σ) (acts : List Act) :
    Engaged s (s.run reg acts) ((s.callsIn reg acts).flatMap Call.entries)
      (s.setCallsIn reg acts) := by
  induction acts generalizing s with
  | nil => exact .idle rfl rfl
  | cons a rest ih =>
      rw [callsIn_cons, List.flatMap_append]
      exact (engaged_act reg s a).trans (ih (s.act reg a))

theorem callEntries_run (s : Station σ) (acts : List Act) :
    (s.run reg acts).link.callEntries =
      s.link.callEntries ++ (s.callsIn reg acts).flatMap Call.entries :=
  (engaged_run reg s acts).callEntries

theorem changed_act (s : Station σ) (a : Act) :
    s.listeners.Changed (s.act reg a).listeners :=
  (engaged_act reg s a).changed

theorem changed_run (s : Station σ) (acts : List Act) :
    s.listeners.Changed (s.run reg acts).listeners :=
  (engaged_run reg s acts).changed

end Station

end Esp3Host
