import Esp3Host.Packet.Wire

/-!
# Assembler

Bytes arrive from the line in pieces of any size.  The assembler keeps the frame in progress and
reports each frame as it completes, as a packet or as the reason why it is none.  Bytes in front of
a sync byte are dropped.  The header checksum is tested as soon as it is there.  When a candidate
fails, only its sync byte is given up: the bytes behind it are read again, so that a frame that
began inside a broken one is still found.
-/

namespace Esp3Host

structure Assembler where
  buffer : Array UInt8 := #[]
  expected : Option Nat := none
  deriving DecidableEq, Repr

namespace Assembler

/--
After a byte the candidate goes on, or it is settled: then the assembler is empty, and the replay is
to be read again.
-/
inductive Step where
  | more (next : Assembler)
  | settled (report : Report) (replay : Bytes)

def step (a : Assembler) (byte : UInt8) : Step :=
  if a.buffer.isEmpty then
    .more (if byte = Packet.syncByte then { a with buffer := a.buffer.push byte } else a)
  else
    let buffer := a.buffer.push byte
    let expected :=
      if buffer.size = 4 then Packet.frameLength? buffer.toList else a.expected
    if buffer.size == Packet.headerLength && checksum (buffer.toList.tail.take 4) != byte then
      .settled (.error (.headerChecksum (checksum (buffer.toList.tail.take 4)) byte))
        buffer.toList.tail
    else if expected = some buffer.size then
      match Packet.decodeValid buffer.toList with
      | .ok p => .settled (.ok p) []
      | .error e => .settled (.error e) buffer.toList.tail
    else .more { buffer, expected }

theorem size_of_step_more {a next : Assembler} {byte : UInt8} (h : a.step byte = .more next) :
    next.buffer.size ≤ a.buffer.size + 1 := by
  unfold step at h
  grind

theorem length_of_step_settled {a : Assembler} {byte : UInt8} {report : Report} {replay : Bytes}
    (h : a.step byte = .settled report replay) : replay.length ≤ a.buffer.size := by
  unfold step at h
  grind

/--
Read bytes onto the reports made so far.  Each round drops a byte, settles a candidate or moves a
byte into the buffer, which is why the reading ends.
-/
def feed (a : Assembler) (pending : Bytes) (reports : Array Report) : Assembler × Array Report :=
  match pending with
  | [] => (a, reports)
  | byte :: rest =>
      match _h : a.step byte with
      | .more next => feed next rest reports
      | .settled report replay => feed {} (replay ++ rest) (reports.push report)
termination_by (a.buffer.size + pending.length, pending.length)
decreasing_by
  · have := size_of_step_more _h
    simp only [Prod.lex_def, List.length_cons]
    omega
  · have := length_of_step_settled _h
    simp only [Prod.lex_def, List.length_cons, List.length_append, List.size_toArray,
      List.length_nil]
    omega

def push (a : Assembler) (bytes : Bytes) : Assembler × List Report :=
  let (next, reports) := a.feed bytes #[]
  (next, reports.toList)

def buffered (a : Assembler) : Nat := a.buffer.size

def clear (_ : Assembler) : Assembler := {}

end Assembler

end Esp3Host
