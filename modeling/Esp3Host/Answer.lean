import Esp3Host.Packet.Basic

/-!
# Commands, answers and events

The host asks the transceiver with common commands and gets responses, whose first byte is a return
code; the transceiver reports by events, whose first byte is an event code.
-/

namespace Esp3Host

/-! ## Return codes -/

inductive ReturnCode where
  | ok
  | error
  | notSupported
  | wrongParameter
  | operationDenied
  | lockSet
  | bufferTooSmall
  | noFreeBuffer
  | other (code : UInt8)
  deriving DecidableEq, Repr

namespace ReturnCode

def ofCode (code : UInt8) : ReturnCode :=
  match code.toNat with
  | 0 => ok
  | 1 => error
  | 2 => notSupported
  | 3 => wrongParameter
  | 4 => operationDenied
  | 5 => lockSet
  | 6 => bufferTooSmall
  | 7 => noFreeBuffer
  | _ => other code

def name : ReturnCode → String
  | ok => "Ok"
  | error => "Error"
  | notSupported => "NotSupported"
  | wrongParameter => "WrongParam"
  | operationDenied => "OperationDenied"
  | lockSet => "LockSet"
  | bufferTooSmall => "BufferTooSmall"
  | noFreeBuffer => "NoFreeBuffer"
  | other code => s!"Other({code})"

def ofPacket? (p : Packet) : Option ReturnCode :=
  match p.kind, p.data with
  | .response, code :: _ => some (ofCode code)
  | _, _ => none

end ReturnCode

/-! ## Event codes -/

inductive EventCode where
  | reclaimNotSuccessful
  | confirmLearn
  | learnAcknowledged
  | ready
  | secureDevices
  | dutyCycleLimit
  | transmitFailed
  | other (code : UInt8)
  deriving DecidableEq, Repr

namespace EventCode

def ofCode (code : UInt8) : EventCode :=
  match code.toNat with
  | 1 => reclaimNotSuccessful
  | 2 => confirmLearn
  | 3 => learnAcknowledged
  | 4 => ready
  | 5 => secureDevices
  | 6 => dutyCycleLimit
  | 7 => transmitFailed
  | _ => other code

def name : EventCode → String
  | reclaimNotSuccessful => "SaReclaimNotSuccessful"
  | confirmLearn => "SaConfirmLearn"
  | learnAcknowledged => "SaLearnAck"
  | ready => "CoReady"
  | secureDevices => "CoEventSecureDevices"
  | dutyCycleLimit => "CoDutyCycleLimit"
  | transmitFailed => "CoTransmitFailed"
  | other code => s!"Other({code})"

def ofPacket? (p : Packet) : Option EventCode :=
  match p.kind, p.data with
  | .event, code :: _ => some (ofCode code)
  | _, _ => none

/-- Smart acknowledge events wait for an answer of the host. -/
def needsResponse : EventCode → Bool
  | reclaimNotSuccessful | confirmLearn | learnAcknowledged => true
  | _ => false

end EventCode

def Packet.needsResponse (p : Packet) : Bool :=
  match EventCode.ofPacket? p with
  | some code => code.needsResponse
  | none => false

/-! ## Common commands -/

inductive CommonCommand where
  | writeReset
  | readVersion
  | readIdBase
  deriving DecidableEq, Repr

namespace CommonCommand

def all : List CommonCommand := [writeReset, readVersion, readIdBase]

def code : CommonCommand → UInt8
  | writeReset => 0x02
  | readVersion => 0x03
  | readIdBase => 0x08

def name : CommonCommand → String
  | writeReset => "WriteReset"
  | readVersion => "ReadVersion"
  | readIdBase => "ReadIdBase"

def packet (command : CommonCommand) : Packet := Packet.sealed .commonCommand [command.code] []

theorem build_eq_packet (command : CommonCommand) :
    Packet.build .commonCommand [command.code] [] = .ok command.packet := rfl

end CommonCommand

/-! ## Answers -/

structure Version where
  app : Bytes
  api : Bytes
  chipId : Address
  chipVersion : Nat
  description : String
  deriving DecidableEq, Repr

namespace Version

/-- Text in sixteen bytes, one character a byte, ended early by a zero. -/
def describe (bytes : Bytes) : String :=
  if bytes.length < 16 then ""
  else
    String.ofList (((bytes.take 16).takeWhile (· ≠ 0)).map fun byte => Char.ofNat byte.toNat)

def minLength : Nat := 17

def ofPacket? (p : Packet) : Option Version :=
  if ReturnCode.ofPacket? p = some .ok ∧ minLength ≤ p.data.length then
    (Address.ofBytes? (p.data.drop 9)).map fun chipId =>
      { app := (p.data.drop 1).take 4
        api := (p.data.drop 5).take 4
        chipId
        chipVersion := Bytes.toNat ((p.data.drop 13).take 4)
        description := describe (p.data.drop minLength) }
  else none

def dotted (bytes : Bytes) : String :=
  ".".intercalate (bytes.map fun byte => toString byte.toNat)

def text (v : Version) : String :=
  s!"app {dotted v.app} api {dotted v.api} chip {v.chipId.text} ({v.description})"

end Version

def Packet.idBase? (p : Packet) : Option Address :=
  if ReturnCode.ofPacket? p = some .ok then Address.ofBytes? (p.data.drop 1) else none

end Esp3Host
