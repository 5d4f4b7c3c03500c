import Esp3Host.Packet.Wire

/-!
# Scanning a stream

The reports on a stream of bytes, from left to right and without any state.  At a byte that is no
sync byte, and at a sync byte with no frame behind it, the scan goes on at the next byte; behind an
intact frame it goes on at the frame's end.  It stops where a candidate is not complete, and the
bytes from there on are left over.
-/

namespace Esp3Host

namespace Scan

/--
The candidate that begins with the sync byte in front: its report and its length, if enough bytes are
there.  The header is judged before the rest.
-/
def candidate? (stream : Bytes) : Option (Report × Nat) :=
  match stream with
  | _ :: high :: low :: extra :: code :: received :: _ =>
      let computed := checksum [high, low, extra, code]
      if computed ≠ received then some (.error (.headerChecksum computed received), 1)
      else
        let length := Packet.overhead + (256 * high.toNat + low.toNat) + extra.toNat
        if stream.length < length then none
        else some (Packet.decodeValid (stream.take length), length)
  | _ => none

/-- The reports on a stream, and the bytes that are left over. -/
def scan : Bytes → List Report × Bytes
  | [] => ([], [])
  | byte :: rest =>
      if byte ≠ Packet.syncByte then scan rest
      else
        match candidate? (byte :: rest) with
        | none => ([], byte :: rest)
        | some (.error e, _) =>
            let (reports, left) := scan rest
            (.error e :: reports, left)
        | some (.ok p, length) =>
            let (reports, left) := scan (rest.drop (length - 1))
            (.ok p :: reports, left)
termination_by stream => stream.length

end Scan

end Esp3Host
