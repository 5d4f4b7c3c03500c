import Esp3Host.Packet.Basic

/-!
# Packets on the wire

    sync | data length, high and low | optional length | kind | header checksum
         | data | optional | payload checksum

`encode` writes a packet as a frame of this form, `decode` reads one from the front of a byte string
and keeps both checksums as they were received, and `validate` compares them with the content.
-/

namespace Esp3Host

inductive FramingError where
  | tooShort (expected actual : Nat)
  | missingSync (found : UInt8)
  | unknownKind (code : UInt8)
  | headerChecksum (computed received : UInt8)
  | payloadChecksum (computed received : UInt8)
  deriving DecidableEq, Repr

namespace FramingError

def message : FramingError → String
  | tooShort expected actual => s!"frame too short: expected {expected} bytes, got {actual}"
  | missingSync found => s!"missing sync byte (found 0x{Hex.code found})"
  | unknownKind code => s!"unknown packet type 0x{Hex.code code}"
  | headerChecksum computed received =>
      s!"header checksum mismatch: computed 0x{Hex.code computed}, received 0x{Hex.code received}"
  | payloadChecksum computed received =>
      s!"payload checksum mismatch: computed 0x{Hex.code computed}, received 0x{Hex.code received}"

end FramingError

namespace Packet

def syncByte : UInt8 := 0x55

def overhead : Nat := 7

def headerLength : Nat := 6

def wireLength (p : Packet) : Nat := overhead + p.data.length + p.optional.length

def encode (p : Packet) : Bytes :=
  syncByte :: header p.kind p.data.length p.optional.length
    ++ p.headerCheck :: (p.data ++ (p.optional ++ [p.payloadCheck]))

/-- The length of a frame, known once its two length fields are there. -/
def frameLength? : Bytes → Option Nat
  | _ :: high :: low :: extra :: _ => some (overhead + (256 * high.toNat + low.toNat) + extra.toNat)
  | _ => none

/--
Read the frame at the front of a byte string; bytes behind it are of no concern.  The faults are
looked for from left to right, the length of the whole before the kind.
-/
def decode (bytes : Bytes) : Except FramingError Packet :=
  match bytes with
  | sync :: high :: low :: extra :: code :: headerCheck :: last :: rest =>
      if sync ≠ syncByte then .error (.missingSync sync)
      else
        let dataLength := 256 * high.toNat + low.toNat
        let body := (last :: rest).drop dataLength
        match body.drop extra.toNat with
        | [] => .error (.tooShort (overhead + dataLength + extra.toNat) bytes.length)
        | payloadCheck :: _ =>
            match PacketKind.ofCode? code with
            | none => .error (.unknownKind code)
            | some kind =>
                .ok { kind, data := (last :: rest).take dataLength
                      optional := body.take extra.toNat, headerCheck, payloadCheck }
  | _ => .error (.tooShort overhead bytes.length)

def validate (p : Packet) : Except FramingError Unit :=
  if p.headerChecksum ≠ p.headerCheck then
    .error (.headerChecksum p.headerChecksum p.headerCheck)
  else if p.payloadChecksum ≠ p.payloadCheck then
    .error (.payloadChecksum p.payloadChecksum p.payloadCheck)
  else .ok ()

def isValid (p : Packet) : Bool :=
  match p.validate with
  | .ok _ => true
  | .error _ => false

/-- Read a frame and trust it only if both checksums fit. -/
def decodeValid (bytes : Bytes) : Except FramingError Packet := do
  let p ← decode bytes
  p.validate
  return p

end Packet

/-- What is told about a candidate for a frame: the packet it carries, or why it carries none. -/
abbrev Report := Except FramingError Packet

end Esp3Host
