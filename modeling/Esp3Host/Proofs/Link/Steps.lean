import Esp3Host.Proofs.Link.SingleFlight

/-!
# A cycle in single steps

A transmit cycle reads the permit, and later it may take it or give it back.  Here the cycle is cut
at these accesses, and between the first write of a packet and taking it down as outstanding, so
that whatever receivers and senders do can fall between any two steps.  A transmitter whom nobody
disturbs comes through its steps to what `Link.cycle` says.
-/

namespace Esp3Host

/-! ## Parts of a cycle -/

namespace Link

/-- Put the outstanding packet away as failed; the permit is still to be given back. -/
def abandon (l : Link) (current : Exchange) : Link :=
  ({ l with outstanding := none }.note (.givenUp current.item.packet)).countFailure

theorem release_abandon (l : Link) (current : Exchange) :
    (l.abandon current).release.2 = l.giveUp current := rfl

def writeLow (l : Link) (item : Item) : Link :=
  let l := l.write item.packet
  { l with counters := { l.counters with sentLow := l.counters.sentLow + 1 } }

theorem writeLow_eq (l : Link) (item : Item) :
    l.writeLow item =
      { l with
        line := { l.line with
          frames := l.line.frames ++ if l.line.failing then [] else [item.packet.encode] }
        counters := { l.counters with
          writeErrors := l.counters.writeErrors + if l.line.failing then 1 else 0
          sentLow := l.counters.sentLow + 1 }
        journal := (l.writeLow item).journal } := by
  simp only [writeLow]
  rw [write_eq]

def enter (l : Link) (now : Instant) (item : Item) : Link :=
  { l with outstanding := some ⟨{ item with attemptsLeft := item.attemptsLeft - 1 }, now⟩ }

theorem enter_writeLow (l : Link) (now : Instant) (item : Item) (rest : List Item) :
    ({ l with sendLow := rest }.writeLow item).enter now item =
      l.beginExchange now item rest := rfl

end Link

/-! ## Steps -/

/--
Where a transmitter stands in its cycle, which began at the instant.  What it is informed of may no
longer be true.
-/
inductive Stage where
  | resting
  | looking (now : Instant)
  | informed (held : Bool) (now : Instant)
  | drawing (now : Instant)
  | asking (item : Item) (now : Instant)
  | granted (item : Item) (now : Instant)
  | denied (item : Item)
  | written (item : Item) (now : Instant)
  | leaving
  deriving DecidableEq, Repr

def Stage.hand : Stage → List Item
  | asking item _ | granted item _ | denied item => [item]
  | _ => []

/-- What a step did; exchanges go by number, in the order in which they got the permit. -/
inductive Incident where
  | looked (held : Bool)
  | acquired
  | refused
  | released (done : Bool)
  | responded (done : Bool)
  | dropped (item : Item)
  | began (exchange : Nat) (item : Item)
  | resent (exchange : Nat)
  | answered (exchange : Nat)
  | gaveUp (exchange : Nat)
  | finished (outcome : CycleOutcome)
  deriving DecidableEq, Repr

def Incident.outcome? : Incident → Option CycleOutcome
  | finished outcome => some outcome
  | _ => none

/-- A link whose transmitter may stand in the middle of a cycle, after `begun` exchanges. -/
structure Contention where
  link : Link
  stage : Stage := .resting
  begun : Nat := 0
  deriving DecidableEq, Repr

inductive Move where
  | advance (now : Instant)
  | accept (p : Packet)
  | send (attempts : Nat) (priority : Priority) (p : Packet)
  | lineFails (failing : Bool)

namespace Contention

def await (c : Contention) (now : Instant) : List Incident × Contention :=
  match c.link.outstanding with
  -- A response between the look and this step leaves the exchange outstanding.
  | none => ([.finished .waiting], { c with stage := .resting })
  | some current =>
      if now.since current.sentAt < c.link.tuning.responseTimeout then
        ([.finished .waiting], { c with stage := .resting })
      else if 0 < current.item.attemptsLeft then
        ([.resent c.begun, .finished .retransmitted],
          { c with link := c.link.resend now current, stage := .resting })
      else ([.gaveUp c.begun], { c with link := c.link.abandon current, stage := .leaving })

def draw (c : Contention) (now : Instant) : List Incident × Contention :=
  match c.link.sendLow with
  | [] => ([.finished .idle], { c with stage := .resting })
  | item :: rest =>
      let link := { c.link with sendLow := rest }
      if item.isExhausted then ([.dropped item], { c with link := link.dropExhausted item })
      else ([], { c with link, stage := .asking item now })

def advance (c : Contention) (start : Instant) : List Incident × Contention :=
  match c.stage with
  | .resting =>
      match c.link.sendHigh with
      | item :: rest =>
          ([.finished .sentHigh], { c with link := { c.link with sendHigh := rest }.writeHigh item })
      | [] => ([], { c with stage := .looking start })
  | .looking now =>
      ([.looked c.link.permitHeld], { c with stage := .informed c.link.permitHeld now })
  | .informed true now => c.await now
  | .informed false now =>
      (if c.link.outstanding.isSome then [.answered c.begun] else [],
        { c with link := c.link.collect now, stage := .drawing now })
  | .drawing now => c.draw now
  | .asking item now =>
      match c.link.acquire with
      | (true, link) =>
          ([.acquired], { link, stage := .granted item now, begun := c.begun + 1 })
      | (false, link) => ([.refused], { c with link, stage := .denied item })
  | .granted item now =>
      ([.began c.begun item],
        { c with link := c.link.writeLow item, stage := .written item now })
  | .denied item =>
      ([.finished .waiting],
        { c with link := { c.link with sendLow := item :: c.link.sendLow }, stage := .resting })
  | .written item now =>
      ([.finished .sentLow], { c with link := c.link.enter now item, stage := .resting })
  | .leaving =>
      let (done, link) := c.link.release
      ([.released done, .finished .gaveUp], { c with link, stage := .resting })

def step (c : Contention) : Move → List Incident × Contention
  | .advance now => c.advance now
  | .accept p =>
      (if p.kind = .response then [.responded c.link.permitHeld] else [],
        { c with link := c.link.accept p })
  | .send attempts priority p => ([], { c with link := c.link.sendWith attempts priority p })
  | .lineFails failing =>
      ([], { c with link := { c.link with line := { c.link.line with failing } } })

def run (c : Contention) (moves : List Move) : Contention :=
  moves.foldl (fun c move => (c.step move).2) c

def history (c : Contention) : List Move → List Incident
  | [] => []
  | move :: rest => (c.step move).1 ++ (c.step move).2.history rest

def fresh (tuning : Tuning) : Contention := { link := { tuning } }

/-! ## A cycle that nobody disturbs -/

/--
A number of steps with nothing between them ends a cycle, and only this one, with an outcome and a
link.
-/
def Completes (c : Contention) (now : Instant) (result : CycleOutcome × Link) : Prop :=
  ∃ count, let moves := List.replicate count (.advance now)
    (c.history moves).filterMap Incident.outcome? = [result.1] ∧
      (c.run moves).stage = .resting ∧ (c.run moves).link = result.2

theorem Completes.last {c : Contention} {now : Instant} {result : CycleOutcome × Link}
    (hquiet : (c.advance now).1.filterMap Incident.outcome? = [result.1])
    (hstage : (c.advance now).2.stage = .resting) (hlink : (c.advance now).2.link = result.2) :
    c.Completes now result :=
  ⟨1, by simpa [history, step] using hquiet, hstage, hlink⟩

theorem Completes.after {c next : Contention} {now : Instant} {incidents : List Incident}
    {result : CycleOutcome × Link} (hstep : c.advance now = (incidents, next))
    (hquiet : incidents.filterMap Incident.outcome? = []) (hnext : next.Completes now result) :
    c.Completes now result := by
  obtain ⟨count, hhistory, hstage, hlink⟩ := hnext
  have hmoves : List.replicate (count + 1) (Move.advance now) =
      .advance now :: List.replicate count (.advance now) := rfl
  refine ⟨count + 1, ?_, ?_, ?_⟩
  · simpa [hmoves, history, step, hstep, hquiet] using hhistory
  · simpa [hmoves, run, step, hstep] using hstage
  · simpa [hmoves, run, step, hstep] using hlink

theorem startNext_requeued (now : Instant) (items queue : List Item) (l : Link) :
    Link.startNext now items { l with sendLow := queue } = Link.startNext now items l := by
  -- The search goes through the packets it is given and puts what is left of them back.
  induction items generalizing l with
  | nil => rfl
  | cons item rest ih =>
      simp only [Link.startNext]
      split
      · exact ih (l.dropExhausted item)
      · cases hheld : l.permitHeld <;> simp only [Link.acquire, hheld] <;> rfl

theorem completes_drawing (l : Link) (now : Instant) (begun : Nat) (hfree : l.permitHeld = false) :
    Completes ⟨l, .drawing now, begun⟩ now (Link.startNext now l.sendLow l) := by
  generalize hlow : l.sendLow = items
  -- Packets without attempts left are dropped one step each, until one can be sent.
  induction items generalizing l with
  | nil =>
      refine .last ?_ ?_ ?_ <;> simp [advance, draw, hlow, Link.startNext, Incident.outcome?]
      rw [← hlow]
  | cons item rest ih =>
      cases hexhausted : item.isExhausted with
      | true =>
          have hdraw : advance ⟨l, .drawing now, begun⟩ now = ([.dropped item],
              ⟨{ l with sendLow := rest }.dropExhausted item, .drawing now, begun⟩) := by
            simp only [advance, draw, hlow, hexhausted, if_true]
          simp only [Link.startNext, hexhausted, if_true]
          rw [← startNext_requeued now rest rest (l.dropExhausted item)]
          exact .after hdraw rfl (ih ({ l with sendLow := rest }.dropExhausted item) hfree rfl)
      | false =>
          have hdraw : advance ⟨l, .drawing now, begun⟩ now =
              ([], ⟨{ l with sendLow := rest }, .asking item now, begun⟩) := by
            simp [advance, draw, hlow, hexhausted]
          have hask : advance ⟨{ l with sendLow := rest }, .asking item now, begun⟩ now =
              ([.acquired],
                ⟨{ l with sendLow := rest, permitHeld := true }, .granted item now, begun + 1⟩) := by
            simp [advance, Link.acquire, hfree]
          have hgranted : Link.startNext now (item :: rest) l =
              (.sentLow, { l with permitHeld := true }.beginExchange now item rest) := by
            simp [Link.startNext, hexhausted, Link.acquire, hfree]
          rw [hgranted, ← Link.enter_writeLow]
          exact .after hdraw rfl (.after hask rfl (.after rfl rfl (.last rfl rfl rfl)))

theorem completes_informed (l : Link) (now : Instant) (begun : Nat) :
    Completes ⟨l, .informed true now, begun⟩ now (l.await now) := by
  cases hout : l.outstanding with
  | none => refine .last ?_ ?_ ?_ <;> simp [advance, await, hout, Link.await, Incident.outcome?]
  | some current =>
      by_cases hearly : now.since current.sentAt < l.tuning.responseTimeout
      · refine .last ?_ ?_ ?_ <;> simp [advance, await, hout, hearly, Link.await, Incident.outcome?]
      by_cases hleft : 0 < current.item.attemptsLeft
      · have hresend : advance ⟨l, .informed true now, begun⟩ now =
            ([.resent begun, .finished .retransmitted],
              ⟨l.resend now current, .resting, begun⟩) := by
          simp [advance, await, hout, hearly, hleft]
        have hresent : l.await now = (.retransmitted, l.resend now current) := by
          simp [Link.await, hout, hearly, hleft]
        rw [hresent]
        refine .last ?_ ?_ ?_ <;> rw [hresend]
        rfl
      · have habandon : advance ⟨l, .informed true now, begun⟩ now =
            ([.gaveUp begun], ⟨l.abandon current, .leaving, begun⟩) := by
          simp [advance, await, hout, hearly, hleft]
        have hgiven : l.await now = (.gaveUp, l.giveUp current) := by
          simp [Link.await, hout, hearly, hleft]
        rw [hgiven, ← Link.release_abandon]
        exact .after habandon rfl (.last rfl rfl rfl)

theorem completes_cycle (l : Link) (now : Instant) (begun : Nat) :
    Completes ⟨l, .resting, begun⟩ now (l.cycle now) := by
  cases hhigh : l.sendHigh with
  | cons item rest =>
      refine .last ?_ ?_ ?_ <;> simp [advance, Link.cycle, hhigh, Incident.outcome?]
  | nil =>
      have hstart : advance ⟨l, .resting, begun⟩ now = ([], ⟨l, .looking now, begun⟩) := by
        simp only [advance, hhigh]
      refine .after hstart rfl ?_
      cases hheld : l.permitHeld with
      | true =>
          have hcycle : l.cycle now = l.await now := by simp [Link.cycle, hhigh, hheld]
          have hlook : advance ⟨l, .looking now, begun⟩ now =
              ([.looked true], ⟨l, .informed true now, begun⟩) := by
            simp only [advance, hheld]
          rw [hcycle]
          exact .after hlook rfl (completes_informed l now begun)
      | false =>
          have hcycle : l.cycle now =
              Link.startNext now (l.collect now).sendLow (l.collect now) := by
            simp [Link.cycle, hhigh, hheld]
          have hlook : advance ⟨l, .looking now, begun⟩ now =
              ([.looked false], ⟨l, .informed false now, begun⟩) := by
            simp only [advance, hheld]
          have hcollected : (l.collect now).permitHeld = false := by
            rw [Link.collect_eq]
            exact hheld
          rw [hcycle]
          refine .after hlook rfl (.after rfl ?_ (completes_drawing _ now begun hcollected))
          split <;> rfl

end Contention

end Esp3Host
