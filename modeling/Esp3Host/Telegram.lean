import Esp3Host.Packet.Basic

/-!
# Radio telegrams

The data section of a radio packet is a telegram:

    family | payload | sender, four bytes | status

The optional section adds the number of sub-telegrams, the destination, the signal strength and the
security level, as far as it goes.  `Telegram.ofPacket` cuts a packet into these parts.
-/

namespace Esp3Host

inductive Rorg where
  | rps
  | oneByte
  | fourByte
  | variableLength
  | manufacturer
  | universalTeachIn
  deriving DecidableEq, Repr

namespace Rorg

def all : List Rorg := [rps, oneByte, fourByte, variableLength, manufacturer, universalTeachIn]

def code : Rorg → UInt8
  | rps => 0xF6
  | oneByte => 0xD5
  | fourByte => 0xA5
  | variableLength => 0xD2
  | manufacturer => 0xD1
  | universalTeachIn => 0xD4

def ofCode? (code : UInt8) : Option Rorg := all.find? fun rorg => rorg.code = code

@[simp] theorem ofCode?_code (rorg : Rorg) : ofCode? rorg.code = some rorg := by
  cases rorg <;> rfl

def name : Rorg → String
  | rps => "Rps"
  | oneByte => "OneBs"
  | fourByte => "FourBs"
  | variableLength => "Vld"
  | manufacturer => "Msc"
  | universalTeachIn => "Ute"

def minPayload : Rorg → Nat
  | rps | oneByte | variableLength | manufacturer => 1
  | fourByte => 4
  | universalTeachIn => 7

end Rorg

inductive TelegramKind where
  | rps
  | oneByte
  | fourByte
  | variableLength
  | universalTeachIn
  | fourByteTeachIn
  deriving DecidableEq, Repr

def TelegramKind.name : TelegramKind → String
  | rps => "Rps"
  | oneByte => "OneByte"
  | fourByte => "FourByte"
  | variableLength => "VariableLength"
  | universalTeachIn => "UteTeachIn"
  | fourByteTeachIn => "FourBsTeachIn"

inductive TelegramError where
  | notRadio (kind : PacketKind)
  | tooShort (rorg : UInt8) (needed actual : Nat)
  | empty
  | unsupportedRorg (code : UInt8)
  deriving DecidableEq, Repr

namespace TelegramError

def message : TelegramError → String
  | notRadio kind => s!"packet type {kind.name} does not carry a radio telegram"
  | tooShort rorg needed actual =>
      s!"radio telegram too short for RORG 0x{Hex.code rorg}: need {needed} bytes, got {actual}"
  | empty => "empty radio telegram"
  | unsupportedRorg code => s!"unsupported RORG 0x{Hex.code code}"

end TelegramError

structure Telegram where
  kind : TelegramKind
  rorg : Rorg
  payload : Bytes
  sender : Address
  status : UInt8
  optional : Bytes
  deriving DecidableEq, Repr

namespace Telegram

/-- The bytes behind the payload: sender and status. -/
def trailerLength : Nat := 5

/-- The bit that is clear while a device is teaching in. -/
def learnBit : Nat := 3

/-- The kind a payload has in its family; four-byte telegrams tell by the learn bit. -/
def kindOf (rorg : Rorg) (payload : Bytes) : TelegramKind :=
  match rorg with
  | .rps => .rps
  | .oneByte => .oneByte
  | .fourByte =>
      if hasBit (payload[3]?.getD 0) learnBit then .fourByte else .fourByteTeachIn
  | .universalTeachIn => .universalTeachIn
  | .variableLength | .manufacturer => .variableLength

def ofPacket (p : Packet) : Except TelegramError Telegram :=
  if p.kind ≠ .radio then .error (.notRadio p.kind)
  else
    match p.data with
    | [] => .error .empty
    | first :: rest =>
        match Rorg.ofCode? first with
        | none => .error (.unsupportedRorg first)
        | some rorg =>
            let needed := 1 + rorg.minPayload + trailerLength
            if p.data.length < needed then .error (.tooShort first needed p.data.length)
            else
              let payload := rest.take (rest.length - trailerLength)
              match rest.drop (rest.length - trailerLength) with
              | [byte3, byte2, byte1, byte0, status] =>
                  .ok { kind := kindOf rorg payload, rorg, payload
                        sender := ⟨byte3, byte2, byte1, byte0⟩, status, optional := p.optional }
              | _ => .error (.tooShort first needed p.data.length)

def repeaterCount (t : Telegram) : Nat := t.status.toNat % 16

def subTelegrams? (t : Telegram) : Option UInt8 := t.optional[0]?

def destination? (t : Telegram) : Option Address := Address.ofBytes? (t.optional.drop 1)

/-- The signal strength, as the number of decibels below one milliwatt. -/
def strength? (t : Telegram) : Option UInt8 := t.optional[5]?

def securityLevel? (t : Telegram) : Option UInt8 := t.optional[6]?

def isTeachIn (t : Telegram) : Bool :=
  match t.kind with
  | .rps | .universalTeachIn | .fourByteTeachIn => true
  | .oneByte => !hasBit (t.payload[0]?.getD 0) learnBit
  | .fourByte | .variableLength => false

end Telegram

end Esp3Host
