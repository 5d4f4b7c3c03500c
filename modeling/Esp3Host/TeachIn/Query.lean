import Esp3Host.Device
import Esp3Host.Telegram

/-!
# Universal teach-in queries

A universal teach-in telegram carries seven payload bytes:

    flags and request | channels | manufacturer, low | manufacturer, high | type | function | family

The answer of the host is a telegram of the same form, whose first byte is the answer code and whose
other bytes are those of the query.
-/

namespace Esp3Host.TeachIn

inductive Request where
  | teachIn
  | deletion
  | unspecified
  | notUsed
  deriving DecidableEq, Repr

namespace Request

def ofByte (byte : UInt8) : Request :=
  match hasBit byte 5, hasBit byte 4 with
  | false, false => teachIn
  | false, true => deletion
  | true, false => unspecified
  | true, true => notUsed

def name : Request → String
  | teachIn => "TeachIn"
  | deletion => "Deletion"
  | unspecified => "Unspecified"
  | notUsed => "NotUsed"

end Request

inductive AnswerCode where
  | success
  | refused
  | deletionAccepted
  deriving DecidableEq, Repr

namespace AnswerCode

def all : List AnswerCode := [success, refused, deletionAccepted]

def code : AnswerCode → UInt8
  | success => 0x91
  | refused => 0xB1
  | deletionAccepted => 0xA1

def name : AnswerCode → String
  | success => "Success"
  | refused => "Refused"
  | deletionAccepted => "DeletionAccepted"

end AnswerCode

/--
The command is zero in a query, other than in the answers of other hosts.  A manufacturer has eleven
bits.
-/
structure Query where
  bidirectional : Bool
  responseRequired : Bool
  request : Request
  command : Nat
  channels : UInt8
  manufacturer : Nat
  profile : Profile
  deriving DecidableEq, Repr

namespace Query

def payloadLength : Nat := 7

def ofPayload (payload : Bytes) : Except TelegramError Query :=
  match payload with
  | flags :: channels :: low :: high :: variant :: func :: rorg :: _ =>
      .ok { bidirectional := hasBit flags 7
            responseRequired := hasBit flags 6
            request := Request.ofByte flags
            command := flags.toNat % 16
            channels
            manufacturer := high.toNat % 8 * 256 + low.toNat
            profile := ⟨rorg, func, variant⟩ }
  | _ => .error (.tooShort Rorg.universalTeachIn.code payloadLength payload.length)

def ofTelegram (t : Telegram) : Except TelegramError Query :=
  if t.rorg ≠ .universalTeachIn then .error (.unsupportedRorg t.rorg.code)
  else ofPayload t.payload

def isQuery (q : Query) : Bool := q.command == 0

def answerPayload (q : Query) (code : AnswerCode) : Bytes :=
  [code.code, q.channels, UInt8.ofNat q.manufacturer, UInt8.ofNat (q.manufacturer / 256 % 8),
    q.profile.variant, q.profile.func, q.profile.rorg]

/-- The telegram that answers a query of the device at `destination`. -/
def answer (q : Query) (code : AnswerCode) (destination : Address) : Packet :=
  Packet.sealed .radio
    (Rorg.universalTeachIn.code :: q.answerPayload code ++ Packet.senderPlaceholder.toBytes ++ [0x00])
    (0x03 :: destination.toBytes ++ [0xFF, 0x00])

theorem radio_eq_answer (q : Query) (code : AnswerCode) (destination : Address) :
    Packet.radio Rorg.universalTeachIn.code (q.answerPayload code) destination
      = .ok (q.answer code destination) := rfl

end Query

end Esp3Host.TeachIn
