/-!
# Counters

What a link has done so far, in numbers.
-/

namespace Esp3Host

structure Counters where
  framesReceived : Nat := 0
  framesDropped : Nat := 0
  responsesReceived : Nat := 0
  sentHigh : Nat := 0
  sentLow : Nat := 0
  retransmissions : Nat := 0
  deliveryFailures : Nat := 0
  writeErrors : Nat := 0
  delivered : Nat := 0
  discardedUnobserved : Nat := 0
  deriving DecidableEq, Repr

def Counters.fields (c : Counters) : List (String × Nat) :=
  [ ("frames_received", c.framesReceived),
    ("frames_dropped", c.framesDropped),
    ("responses_received", c.responsesReceived),
    ("sent_high", c.sentHigh),
    ("sent_low", c.sentLow),
    ("retransmissions", c.retransmissions),
    ("delivery_failures", c.deliveryFailures),
    ("write_errors", c.writeErrors),
    ("delivered", c.delivered),
    ("discarded_unobserved", c.discardedUnobserved) ]

end Esp3Host
