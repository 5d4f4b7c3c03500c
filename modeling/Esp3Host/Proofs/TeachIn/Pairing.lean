import Esp3Host.Proofs.Packet.Codec
import Esp3Host.Proofs.TeachIn.Answers
import Esp3Host.Proofs.TeachIn.Encounter

/-!
# A query that is answered with success

A device that the table does not know asks to be paired by a universal teach-in query.  If the
window admits it and the table lists its profile, handling the query enters the device and queues
one answer, whatever observers do meanwhile.
-/

namespace Esp3Host.TeachIn

/-- What a device tells in a universal teach-in query for pairing that requires an answer. -/
structure Application where
  sender : Address
  profile : Profile
  channels : UInt8
  manufacturer : Nat
  manufacturer_lt : manufacturer < 2048
  bidirectional : Bool
  status : UInt8
  optional : Bytes
  optional_le : optional.length ≤ Packet.maxOptionalLength

namespace Application

variable (a : Application)

def flags : UInt8 := if a.bidirectional then 0xC0 else 0x40

def payload : Bytes :=
  [a.flags, a.channels, UInt8.ofNat a.manufacturer, UInt8.ofNat (a.manufacturer / 256),
    a.profile.variant, a.profile.func, a.profile.rorg]

def packet : Packet :=
  .sealed .radio (Rorg.universalTeachIn.code :: a.payload ++ a.sender.toBytes ++ [a.status])
    a.optional

def telegram : Telegram where
  kind := .universalTeachIn
  rorg := .universalTeachIn
  payload := a.payload
  sender := a.sender
  status := a.status
  optional := a.optional

def query : Query where
  bidirectional := a.bidirectional
  responseRequired := true
  request := .teachIn
  command := 0
  channels := a.channels
  manufacturer := a.manufacturer
  profile := a.profile

def device : Device := ⟨a.sender, a.manufacturer, a.profile⟩

theorem built_packet : a.packet.Built :=
  Packet.built_sealed (by simp [payload, Address.toBytes, Packet.maxDataLength]) a.optional_le

theorem ofPacket_packet : Telegram.ofPacket a.packet = .ok a.telegram := rfl

theorem ofTelegram_telegram : Query.ofTelegram a.telegram = .ok a.query := by
  have hmanufacturer : (UInt8.ofNat (a.manufacturer / 256)).toNat % 8 * 256 +
      (UInt8.ofNat a.manufacturer).toNat = a.manufacturer := by
    have hlt := a.manufacturer_lt
    simp only [UInt8.toNat_ofNat']
    omega
  have hread : Query.ofTelegram a.telegram = .ok
      { bidirectional := hasBit a.flags 7
        responseRequired := hasBit a.flags 6
        request := Request.ofByte a.flags
        command := a.flags.toNat % 16
        channels := a.channels
        manufacturer := (UInt8.ofNat (a.manufacturer / 256)).toNat % 8 * 256 +
          (UInt8.ofNat a.manufacturer).toNat
        profile := a.profile } := rfl
  rw [hread, hmanufacturer, query, flags]
  cases a.bidirectional <;> rfl

def answer : Packet := a.query.answer .success a.sender

theorem built_answer : a.answer.Built :=
  Packet.built_sealed
    (by simp [Query.answerPayload, Address.toBytes, Packet.maxDataLength])
    (by simp [Address.toBytes, Packet.maxOptionalLength])

end Application

namespace Engine

variable {e : Engine DeviceTable} {a : Application}

theorem handleQuery_application (h : e.Welcomes a.device) :
    ∃ last, e.handleQuery tableRegistry a.telegram =
        last.sendAnswer a.telegram a.query .success (some a.device) ∧
      Aside { e with registry.devices := e.registry.devices ++ [a.device] } last := by
  obtain ⟨last, hregister, haside⟩ := register_of_welcomes (t := a.telegram) h
  refine ⟨last, ?_, haside⟩
  have hsupported : e.supports tableRegistry a.query.profile = (true, e) := by
    rw [supports_tableRegistry, ← h.supported]
    rfl
  have hregister : e.register tableRegistry a.telegram a.query.manufacturer a.query.profile =
      (.created a.device, last) := hregister
  rw [handleQuery, a.ofTelegram_telegram]
  change e.handleTeachInQuery tableRegistry a.telegram a.query = _
  rw [handleTeachInQuery, hsupported]
  dsimp only
  rw [hregister]

theorem handle_eq_handleQuery {w : Window} (hwindow : e.window = some w)
    (hdeadline : w.expired e.clock = false) (h : e.Welcomes a.device) :
    e.handle tableRegistry a.packet = e.handleQuery tableRegistry a.telegram := by
  have hadmits := h.admits
  rw [admits, hwindow] at hadmits
  have hencounter : Encounter a.packet a.telegram w e :=
    ⟨a.ofPacket_packet, h.unknown, hwindow, hdeadline, hadmits⟩
  exact hencounter.handle_eq

theorem handle_application {w : Window} (hwindow : e.window = some w)
    (hdeadline : w.expired e.clock = false) (h : e.Welcomes a.device) :
    let after := (e.handle tableRegistry a.packet).2
    after.registry = { e.registry with devices := e.registry.devices ++ [a.device] } ∧
      after.link = { e.link with
        sendHigh := e.link.sendHigh ++ [⟨a.answer, 1⟩]
        journal := after.link.journal } := by
  intro after
  obtain ⟨last, hanswered, haside⟩ := handleQuery_application h
  have hafter : after = (last.sendAnswer a.telegram a.query .success (some a.device)).2 := by
    rw [← hanswered, ← handle_eq_handleQuery hwindow hdeadline h]
  have hlink : after.link = last.link.send .high a.answer := congrArg Engine.link hafter
  refine ⟨(congrArg Engine.registry hafter).trans haside.registry_eq, ?_⟩
  rw [hlink, Link.send, Link.sendWith_eq, haside.link_eq]
  simp

end Engine

end Esp3Host.TeachIn
