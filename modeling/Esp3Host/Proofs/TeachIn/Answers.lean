import Esp3Host.Proofs.Telegram.Layout
import Esp3Host.TeachIn.Query

/-!
# Reading answers back

The answer to a universal teach-in query is itself a radio packet with a universal teach-in
telegram, whose manufacturer has eleven bits.
-/

namespace Esp3Host.TeachIn

def Query.answerTelegram (q : Query) (code : AnswerCode) (destination : Address) : Telegram where
  kind := .universalTeachIn
  rorg := .universalTeachIn
  payload := q.answerPayload code
  sender := Packet.senderPlaceholder
  status := 0x00
  optional := 0x03 :: destination.toBytes ++ [0xFF, 0x00]

namespace Query

variable {q : Query} {t : Telegram}

theorem ofPacket_answer (q : Query) (code : AnswerCode) (destination : Address) :
    Telegram.ofPacket (q.answer code destination) = .ok (q.answerTelegram code destination) :=
  rfl

theorem kind_of_ofTelegram {p : Packet} (hparse : Telegram.ofPacket p = .ok t)
    (h : ofTelegram t = .ok q) : t.kind = .universalTeachIn := by
  have hkind := (Telegram.ofPacket_eq_ok_iff.mp hparse).kind
  have hrorg : t.rorg = .universalTeachIn := by
    unfold ofTelegram at h
    split at h
    · cases h
    · exact Decidable.not_not.mp ‹_›
  rw [hkind, hrorg]
  rfl

theorem manufacturer_lt_of_ofPayload {payload : Bytes} (h : ofPayload payload = .ok q) :
    q.manufacturer < 2048 := by
  unfold ofPayload at h
  split at h
  · rename_i flags channels low high variant func rorg rest
    cases h
    have hlow := low.toNat_lt
    have hhigh := Nat.mod_lt high.toNat (show 0 < 8 by decide)
    dsimp only
    omega
  · cases h

theorem manufacturer_lt_of_ofTelegram (h : ofTelegram t = .ok q) : q.manufacturer < 2048 := by
  unfold ofTelegram at h
  split at h
  · cases h
  · exact manufacturer_lt_of_ofPayload h

theorem answerPayload_of_lt (h : q.manufacturer < 2048) (code : AnswerCode) :
    q.answerPayload code =
      [code.code, q.channels, UInt8.ofNat q.manufacturer, UInt8.ofNat (q.manufacturer / 256),
        q.profile.variant, q.profile.func, q.profile.rorg] := by
  rw [answerPayload, Nat.mod_eq_of_lt (by omega)]

end Query

/-- The packet is an answer of success to this device, with its manufacturer and its profile. -/
def Confirms (p : Packet) (device : Device) : Prop :=
  ∃ t channels, Telegram.ofPacket p = .ok t ∧ t.kind = .universalTeachIn ∧
    t.destination? = some device.address ∧ device.manufacturer < 2048 ∧
    t.payload = [AnswerCode.success.code, channels, UInt8.ofNat device.manufacturer,
      UInt8.ofNat (device.manufacturer / 256), device.profile.variant, device.profile.func,
      device.profile.rorg]

theorem confirms_answer {q : Query} {t : Telegram} (h : Query.ofTelegram t = .ok q) :
    Confirms (q.answer .success t.sender) ⟨t.sender, q.manufacturer, q.profile⟩ := by
  have hlt := Query.manufacturer_lt_of_ofTelegram h
  exact ⟨q.answerTelegram .success t.sender, q.channels, Query.ofPacket_answer q _ _, rfl, rfl,
    hlt, Query.answerPayload_of_lt hlt .success⟩

def isConfirmation (p : Packet) : Bool :=
  match Telegram.ofPacket p with
  | .ok t => t.kind = .universalTeachIn && t.payload.head? = some AnswerCode.success.code
  | .error _ => false

theorem isConfirmation_answer (q : Query) (code : AnswerCode) (destination : Address) :
    isConfirmation (q.answer code destination) = decide (code = .success) := by
  rw [isConfirmation, Query.ofPacket_answer]
  cases code <;> rfl

end Esp3Host.TeachIn
