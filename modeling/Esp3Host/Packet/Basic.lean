import Esp3Host.Address
import Esp3Host.Checksum

/-!
# Packets

A packet is what host and transceiver exchange: a kind, a data section, an optional section and the
two checksums that travel with them.  `Packet.build` makes packets whose checksums fit; a packet
read from the line keeps the checksums it came with.
-/

namespace Esp3Host

inductive PacketKind where
  | radio
  | response
  | radioSubTelegram
  | event
  | commonCommand
  | smartAckCommand
  | remoteManagement
  | radioMessage
  | radioAdvanced
  deriving DecidableEq, Repr

namespace PacketKind

def all : List PacketKind :=
  [radio, response, radioSubTelegram, event, commonCommand, smartAckCommand, remoteManagement,
    radioMessage, radioAdvanced]

def code : PacketKind → UInt8
  | radio => 0x01
  | response => 0x02
  | radioSubTelegram => 0x03
  | event => 0x04
  | commonCommand => 0x05
  | smartAckCommand => 0x06
  | remoteManagement => 0x07
  | radioMessage => 0x09
  | radioAdvanced => 0x0A

def ofCode? (code : UInt8) : Option PacketKind := all.find? fun kind => kind.code = code

@[simp] theorem ofCode?_code (kind : PacketKind) : ofCode? kind.code = some kind := by
  cases kind <;> rfl

theorem code_of_ofCode? {c : UInt8} {kind : PacketKind} (h : ofCode? c = some kind) :
    kind.code = c := by
  simpa using List.find?_some h

def name : PacketKind → String
  | radio => "Radio"
  | response => "Response"
  | radioSubTelegram => "RadioSubTel"
  | event => "Event"
  | commonCommand => "CommonCommand"
  | smartAckCommand => "SmartAckCommand"
  | remoteManagement => "RemoteManCommand"
  | radioMessage => "RadioMessage"
  | radioAdvanced => "RadioAdvanced"

end PacketKind

structure Packet where
  kind : PacketKind
  data : Bytes
  optional : Bytes
  headerCheck : UInt8
  payloadCheck : UInt8
  deriving DecidableEq, Repr

inductive EncodingError where
  | dataTooLong (length : Nat)
  | optionalTooLong (length : Nat)
  deriving DecidableEq, Repr

def EncodingError.message : EncodingError → String
  | dataTooLong length => s!"data section too long: {length} bytes (max 65535)"
  | optionalTooLong length => s!"optional data too long: {length} bytes (max 255)"

namespace Packet

def maxDataLength : Nat := 65535

def maxOptionalLength : Nat := 255

/-- The two length fields and the kind: what the header checksum covers. -/
def header (kind : PacketKind) (dataLength optionalLength : Nat) : Bytes :=
  [UInt8.ofNat (dataLength / 256), UInt8.ofNat dataLength, UInt8.ofNat optionalLength, kind.code]

def headerChecksum (p : Packet) : UInt8 :=
  checksum (header p.kind p.data.length p.optional.length)

def payloadChecksum (p : Packet) : UInt8 := checksumOfTwo p.data p.optional

/-- The packet of this content whose checksums fit. -/
def sealed (kind : PacketKind) (data optional : Bytes) : Packet :=
  { kind, data, optional
    headerCheck := checksum (header kind data.length optional.length)
    payloadCheck := checksumOfTwo data optional }

def build (kind : PacketKind) (data optional : Bytes) : Except EncodingError Packet :=
  if maxDataLength < data.length then .error (.dataTooLong data.length)
  else if maxOptionalLength < optional.length then .error (.optionalTooLong optional.length)
  else .ok (sealed kind data optional)

/-- The sender a transceiver replaces by its own address. -/
def senderPlaceholder : Address := ⟨0x00, 0xFF, 0xFF, 0xFF⟩

/--
An outgoing telegram for one destination.  The data ends in the sender and a status of zero; the
optional section asks for three sub-telegrams and carries the destination, full signal strength and
no encryption.
-/
def radio (rorg : UInt8) (payload : Bytes) (destination : Address) : Except EncodingError Packet :=
  build .radio (rorg :: payload ++ senderPlaceholder.toBytes ++ [0x00])
    (0x03 :: destination.toBytes ++ [0xFF, 0x00])

def text (p : Packet) : String :=
  s!"Packet \x7b type: {p.kind.name}, data: \"" ++ Hex.snippet 32 p.data
    ++ "\", optional: \"" ++ Hex.snippet 16 p.optional ++ "\" \x7d"

end Packet

end Esp3Host
