import Esp3Host.Link.Basic

/-!
# Transmitting

Each cycle writes at most one frame.  An urgent packet goes first and waits for nothing.  A
low-priority packet is written only with the permit and stays outstanding until a response gives
the permit back; until then it is written again whenever the response timeout has passed, as long
as it has attempts left.
-/

namespace Esp3Host

inductive CycleOutcome where
  | idle
  | sentHigh
  | sentLow
  | waiting
  | retransmitted
  | gaveUp
  deriving DecidableEq, Repr

def CycleOutcome.name : CycleOutcome → String
  | idle => "Idle"
  | sentHigh => "SentHigh"
  | sentLow => "SentLow"
  | waiting => "Waiting"
  | retransmitted => "Retransmitted"
  | gaveUp => "GaveUp"

namespace Link

/-- Hand a frame to the line; one that the line refuses is counted and noted. -/
def write (l : Link) (p : Packet) : Link :=
  let l := l.note (.written p.encode)
  if l.line.failing then
    { l with counters := { l.counters with writeErrors := l.counters.writeErrors + 1 } }.note
      (.writeFailed p.kind)
  else { l with line := { l.line with frames := l.line.frames ++ [p.encode] } }

def writeHigh (l : Link) (item : Item) : Link :=
  let l := l.write item.packet
  { l with counters := { l.counters with sentHigh := l.counters.sentHigh + 1 } }

/-- Put away the exchange whose permit was given back. -/
def collect (l : Link) (now : Instant) : Link :=
  match l.outstanding with
  | none => l
  | some done =>
      { l with outstanding := none }.note
        (.answered done.item.packet.kind (now.since done.sentAt))

def countFailure (l : Link) : Link :=
  { l with counters := { l.counters with deliveryFailures := l.counters.deliveryFailures + 1 } }

def dropExhausted (l : Link) (item : Item) : Link := (l.note (.exhausted item.packet)).countFailure

/-- Write a packet for the first time, with the permit taken; `rest` stays queued. -/
def beginExchange (l : Link) (now : Instant) (item : Item) (rest : List Item) : Link :=
  let l := { l with sendLow := rest }.write item.packet
  { l with
    counters := { l.counters with sentLow := l.counters.sentLow + 1 }
    outstanding := some ⟨{ item with attemptsLeft := item.attemptsLeft - 1 }, now⟩ }

/--
Start the first exchange of the low-priority queue that has attempts left, dropping those in front
of it that have none.
-/
def startNext (now : Instant) : List Item → Link → CycleOutcome × Link
  | [], l => (.idle, { l with sendLow := [] })
  | item :: rest, l =>
      if item.isExhausted then startNext now rest (l.dropExhausted item)
      else
        match l.acquire with
        | (false, l) => (.waiting, { l with sendLow := item :: rest })
        | (true, l) => (.sentLow, l.beginExchange now item rest)

def resend (l : Link) (now : Instant) (current : Exchange) : Link :=
  let item := { current.item with attemptsLeft := current.item.attemptsLeft - 1 }
  let l := { l with outstanding := some ⟨item, now⟩ }.note
    (.resending l.tuning.responseTimeout item.attemptsLeft)
  let l := l.write item.packet
  { l with counters := { l.counters with retransmissions := l.counters.retransmissions + 1 } }

def giveUp (l : Link) (current : Exchange) : Link :=
  ({ l with outstanding := none }.note (.givenUp current.item.packet)).countFailure.release.2

def await (l : Link) (now : Instant) : CycleOutcome × Link :=
  match l.outstanding with
  | none => (.waiting, l)
  | some current =>
      if now.since current.sentAt < l.tuning.responseTimeout then (.waiting, l)
      else if 0 < current.item.attemptsLeft then (.retransmitted, l.resend now current)
      else (.gaveUp, l.giveUp current)

def cycle (l : Link) (now : Instant) : CycleOutcome × Link :=
  match l.sendHigh with
  | item :: rest => (.sentHigh, { l with sendHigh := rest }.writeHigh item)
  | [] =>
      if l.permitHeld then l.await now
      else
        let l := l.collect now
        startNext now l.sendLow l

end Link

end Esp3Host
