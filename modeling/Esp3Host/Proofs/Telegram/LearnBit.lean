import Esp3Host.Proofs.Telegram.Layout

/-!
# The place of the learn bit

One-byte and four-byte telegrams tell by a bit whether they ask for teach-in.  It is read at one
place of every payload, which is the last one if the payload is no longer than the family needs.  In
a longer payload the last byte has no say.
-/

namespace Esp3Host

def Rorg.learnPlace? : Rorg → Option Nat
  | oneByte => some 0
  | fourByte => some 3
  | rps | variableLength | manufacturer | universalTeachIn => none

theorem Rorg.minPayload_of_learnPlace? {rorg : Rorg} {place : Nat}
    (h : rorg.learnPlace? = some place) : rorg.minPayload = place + 1 := by
  cases rorg <;> simp [learnPlace?] at h <;> subst h <;> rfl

namespace Telegram

variable {p : Packet} {t : Telegram} {place : Nat}

theorem Layout.exists_learn (h : Layout p t) (hplace : t.rorg.learnPlace? = some place) :
    ∃ learn, t.payload[place]? = some learn := by
  have hmin := Rorg.minPayload_of_learnPlace? hplace
  exact h.exists_byte (by omega)

theorem Layout.exists_last (h : Layout p t) (hplace : t.rorg.learnPlace? = some place) :
    ∃ last, t.payload.getLast? = some last ∧ p.data[p.data.length - 6]? = some last := by
  have hmin := Rorg.minPayload_of_learnPlace? hplace
  have hlength := h.payload
  have hbehind : t.payload.length - 1 < t.payload.length := by omega
  have hindex : p.data.length - 6 = (t.payload.length - 1) + 1 := by
    rw [h.length_data]
    omega
  refine ⟨t.payload[t.payload.length - 1], ?_, ?_⟩
  · rw [List.getLast?_eq_getElem?, List.getElem?_eq_getElem hbehind]
  · rw [hindex, h.data, List.getElem?_cons_succ, List.getElem?_append_left hbehind,
      List.getElem?_eq_getElem hbehind]

theorem Layout.isTeachIn_iff (h : Layout p t) (hplace : t.rorg.learnPlace? = some place)
    {learn : UInt8} (hlearn : t.payload[place]? = some learn) :
    (t.isTeachIn = true ↔ hasBit learn 3 = false) ∧
      (t.rorg = .fourByte → (t.kind = .fourByteTeachIn ↔ hasBit learn 3 = false)) := by
  rw [isTeachIn, h.kind]
  cases hrorg : t.rorg <;> rw [hrorg] at hplace <;> cases hplace
  case oneByte => simp [kindOf, learnBit, hlearn]
  case fourByte => cases hbit : hasBit learn 3 <;> simp [kindOf, learnBit, hlearn, hbit]

theorem exists_ofPacket_fill {rorg : Rorg} (hplace : rorg.learnPlace? = some place) {n : Nat}
    (hlong : place < n) (learn last : UInt8) :
    ∃ p t, ofPacket p = .ok t ∧ t.rorg = rorg ∧
      t.payload = List.replicate n learn ++ [last] := by
  have hmin := Rorg.minPayload_of_learnPlace? hplace
  let payload := List.replicate n learn ++ [last]
  let t : Telegram := ⟨kindOf rorg payload, rorg, payload, .broadcast, 0x00, []⟩
  let p := Packet.sealed .radio (rorg.code :: (payload ++ (t.sender.toBytes ++ [t.status]))) []
  have hpayload : rorg.minPayload ≤ payload.length := by
    simp only [payload, List.length_append, List.length_replicate, List.length_singleton]
    omega
  have hlayout : Layout p t := ⟨rfl, rfl, hpayload, rfl, rfl⟩
  exact ⟨p, t, ofPacket_of_layout hlayout, rfl, rfl⟩

/--
In the families with a learn bit a telegram asks for teach-in exactly if the bit is clear at its
place, and the kind of a four-byte telegram says the same.  That is the last payload byte, the one
before the sender, if the payload has the length that the family needs.  For every greater length
there are telegrams whose last byte says the opposite, in either direction.
-/
theorem learn_bit_read {rorg : Rorg} (hplace : rorg.learnPlace? = some place) :
    (∀ p t, ofPacket p = .ok t → t.rorg = rorg → ∃ learn last,
      t.payload[place]? = some learn ∧ t.payload.getLast? = some last ∧
      p.data[p.data.length - 6]? = some last ∧
      (t.isTeachIn = true ↔ hasBit learn 3 = false) ∧
      (rorg = .fourByte → (t.kind = .fourByteTeachIn ↔ hasBit learn 3 = false)) ∧
      (t.payload.length = rorg.minPayload → learn = last)) ∧
      ∀ n, rorg.minPayload < n → ∀ asks : Bool, ∃ p t last, ofPacket p = .ok t ∧
        t.rorg = rorg ∧ t.payload.length = n ∧ t.payload.getLast? = some last ∧
        t.isTeachIn = asks ∧ hasBit last 3 = asks := by
  constructor
  · rintro p t hread rfl
    have h := ofPacket_eq_ok_iff.mp hread
    obtain ⟨learn, hlearn⟩ := h.exists_learn hplace
    obtain ⟨last, hlast, hbefore⟩ := h.exists_last hplace
    obtain ⟨hteach, hkind⟩ := h.isTeachIn_iff hplace hlearn
    refine ⟨learn, last, hlearn, hlast, hbefore, hteach, hkind, fun hlength => ?_⟩
    rw [Rorg.minPayload_of_learnPlace? hplace] at hlength
    rw [List.getLast?_eq_getElem?, hlength, Nat.add_sub_cancel, hlearn] at hlast
    exact Option.some.inj hlast
  · intro n hlong asks
    rw [Rorg.minPayload_of_learnPlace? hplace] at hlong
    let learn : UInt8 := if asks then 0x00 else 0x08
    let last : UInt8 := if asks then 0x08 else 0x00
    obtain ⟨p, t, hread, rfl, hpayload⟩ :=
      exists_ofPacket_fill hplace (show place < n - 1 by omega) learn last
    have hlearn : t.payload[place]? = some learn := by
      rw [hpayload, List.getElem?_append_left (by rw [List.length_replicate]; omega),
        List.getElem?_replicate_of_lt (by omega)]
    have hteach := ((ofPacket_eq_ok_iff.mp hread).isTeachIn_iff hplace hlearn).1
    refine ⟨p, t, last, hread, rfl, ?_, ?_, ?_, ?_⟩
    · rw [hpayload]
      simp
      omega
    · simp [hpayload]
    · cases asks with
      | false => simpa [learn] using mt hteach.mp (by decide)
      | true => exact hteach.mpr (by decide)
    · cases asks <;> decide

theorem learn_bit_read_contact_of_two_bytes :
    let p := Packet.sealed .radio [0xD5, 0x08, 0x00, 0x01, 0x80, 0x2A, 0x3B, 0x00] []
    let t : Telegram := ⟨.oneByte, .oneByte, [0x08, 0x00], ⟨0x01, 0x80, 0x2A, 0x3B⟩, 0x00, []⟩
    Rorg.oneByte.learnPlace? = some 0 ∧ ofPacket p = .ok t ∧
      p.data[p.data.length - 6]? = some 0x00 ∧ hasBit 0x00 3 = false ∧ t.isTeachIn = false := by
  intro p t
  have hread : ofPacket p = .ok t := rfl
  obtain ⟨hplace, -⟩ := learn_bit_read (show Rorg.oneByte.learnPlace? = some 0 from rfl)
  obtain ⟨learn, last, hlearn, -, hbefore, hteach, -⟩ := hplace p t hread rfl
  cases hlearn
  cases hbefore
  exact ⟨rfl, hread, rfl, rfl, Bool.eq_false_iff.mpr (mt hteach.mp (by decide))⟩

end Telegram

end Esp3Host
