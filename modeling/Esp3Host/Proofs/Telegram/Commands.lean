import Esp3Host.Proofs.Packet.Codec
import Esp3Host.Proofs.Telegram.Layout

/-!
# Outgoing commands are read back

A command is built for any family code and any payload that leaves room in the data section.  Its
frame is read back by whoever receives it.  As a telegram it is read exactly if the code is that of
a family and the payload is long enough for it, and then it shows everything that was put into it.
-/

namespace Esp3Host

namespace Packet

variable {code : UInt8} {payload : Bytes} {destination : Address} {p : Packet}

theorem length_radio_data (code : UInt8) (payload : Bytes) :
    (code :: payload ++ senderPlaceholder.toBytes ++ [0x00]).length = payload.length + 6 := by
  simp [Address.toBytes]

theorem radio_eq_ok_iff :
    radio code payload destination = .ok p ↔
      payload.length + 6 ≤ maxDataLength ∧
        p = sealed .radio (code :: payload ++ senderPlaceholder.toBytes ++ [0x00])
          (0x03 :: destination.toBytes ++ [0xFF, 0x00]) := by
  have hoptional : (0x03 :: destination.toBytes ++ [0xFF, 0x00]).length ≤ maxOptionalLength := by
    simp [Address.toBytes, maxOptionalLength]
  rw [radio, build_eq_ok_iff, length_radio_data]
  simp only [hoptional, true_and]

theorem radio_eq_error_iff {e : EncodingError} :
    radio code payload destination = .error e ↔
      maxDataLength < payload.length + 6 ∧ e = .dataTooLong (payload.length + 6) := by
  by_cases hfits : payload.length + 6 ≤ maxDataLength
  case pos =>
    rw [radio_eq_ok_iff.mpr ⟨hfits, rfl⟩]
    simp only [reduceCtorEq, false_iff, not_and]
    omega
  case neg =>
    have hlong : maxDataLength < payload.length + 6 := by omega
    rw [radio, build, length_radio_data, if_pos hlong]
    simp [hlong, eq_comm]

end Packet

namespace Telegram

variable {code : UInt8} {payload : Bytes} {destination : Address} {p : Packet}

/-- A command to a destination as its receiver sees it. -/
structure Commands (code : UInt8) (payload : Bytes) (destination : Address) (t : Telegram) :
    Prop where
  rorg : t.rorg.code = code
  payload : t.payload = payload
  sender : t.sender = ⟨0x00, 0xFF, 0xFF, 0xFF⟩
  status : t.status = 0x00
  subTelegrams : t.subTelegrams? = some 0x03
  destination : t.destination? = some destination
  strength : t.strength? = some 0xFF
  securityLevel : t.securityLevel? = some 0x00

def command (rorg : Rorg) (payload : Bytes) (destination : Address) : Telegram where
  kind := kindOf rorg payload
  rorg
  payload
  sender := Packet.senderPlaceholder
  status := 0x00
  optional := 0x03 :: destination.toBytes ++ [0xFF, 0x00]

theorem commands_command (rorg : Rorg) (payload : Bytes) (destination : Address) :
    (command rorg payload destination).Commands rorg.code payload destination where
  rorg := rfl
  payload := rfl
  sender := rfl
  status := rfl
  subTelegrams := rfl
  destination := Address.ofBytes?_append destination [0xFF, 0x00]
  strength := rfl
  securityLevel := rfl

theorem layout_radio {rorg : Rorg} (h : Packet.radio rorg.code payload destination = .ok p)
    (hlength : rorg.minPayload ≤ payload.length) :
    Layout p (command rorg payload destination) := by
  obtain ⟨-, rfl⟩ := Packet.radio_eq_ok_iff.mp h
  exact ⟨rfl, by simp [Packet.sealed, command], hlength, rfl, rfl⟩

theorem exists_ofPacket_radio_iff (h : Packet.radio code payload destination = .ok p) :
    (∃ t, ofPacket p = .ok t) ↔
      ∃ rorg least, (rorg, code, least) ∈ Rorg.shapes ∧ least ≤ payload.length := by
  constructor
  · intro hread
    obtain ⟨-, rorg, first, least, rest, hdata, hshape, hlong⟩ := exists_ofPacket_iff.mp hread
    obtain ⟨-, rfl⟩ := Packet.radio_eq_ok_iff.mp h
    have hlength := Packet.length_radio_data code payload
    obtain ⟨rfl, -⟩ := List.cons_eq_cons.mp hdata
    refine ⟨rorg, least, hshape, ?_⟩
    simp only [Packet.sealed] at hlong
    omega
  · rintro ⟨rorg, least, hshape, hlength⟩
    obtain ⟨rfl, rfl⟩ := Rorg.mem_shapes_iff.mp hshape
    exact ⟨_, ofPacket_of_layout (layout_radio h hlength)⟩

theorem commands_of_ofPacket (h : Packet.radio code payload destination = .ok p) {t : Telegram}
    (hread : ofPacket p = .ok t) : t.Commands code payload destination := by
  obtain ⟨rorg, least, hshape, hlength⟩ := (exists_ofPacket_radio_iff h).mp ⟨t, hread⟩
  obtain ⟨rfl, rfl⟩ := Rorg.mem_shapes_iff.mp hshape
  -- What is read of a packet is the one telegram that it is laid out as.
  cases hread.symm.trans (ofPacket_of_layout (layout_radio h hlength))
  exact commands_command rorg payload destination

/--
Building a command fails exactly if its data section is too long, and then tells the whole length.
Every other command is read back from its frame.  It is read as a telegram exactly if its code is
that of a family and its payload is long enough for it, and then as what was commanded.
-/
theorem commands_read_back (code : UInt8) (payload : Bytes) (destination : Address) :
    (∀ e, Packet.radio code payload destination = .error e ↔
      65535 < payload.length + 6 ∧ e = .dataTooLong (payload.length + 6)) ∧
      (payload.length + 6 ≤ 65535 → ∃ p received,
        Packet.radio code payload destination = .ok p ∧
        Packet.decode p.encode = .ok received ∧ received.validate = .ok () ∧
        ((∃ t, ofPacket received = .ok t) ↔
          ∃ rorg least, (rorg, code, least) ∈ Rorg.shapes ∧ least ≤ payload.length) ∧
        ∀ t, ofPacket received = .ok t → t.Commands code payload destination) := by
  refine ⟨fun e => Packet.radio_eq_error_iff, fun hfits => ?_⟩
  obtain ⟨p, hbuild⟩ : ∃ p, Packet.radio code payload destination = .ok p :=
    ⟨_, Packet.radio_eq_ok_iff.mpr ⟨hfits, rfl⟩⟩
  have hbuilt : p.Built := ⟨_, _, _, hbuild⟩
  have hdecode : Packet.decode p.encode = .ok p :=
    Packet.decode_eq_ok_iff.mpr ⟨hbuilt.fits, List.prefix_refl _⟩
  exact ⟨p, p, hbuild, hdecode, hbuilt.validate, exists_ofPacket_radio_iff hbuild,
    fun _ => commands_of_ofPacket hbuild⟩

theorem commands_read_back_switch :
    let destination : Address := ⟨0x01, 0x80, 0x2A, 0x3B⟩
    ∃ p received t, Packet.radio 0xF6 [0x30] destination = .ok p ∧
      p.data = [0xF6, 0x30, 0x00, 0xFF, 0xFF, 0xFF, 0x00] ∧
      Packet.decode p.encode = .ok received ∧ ofPacket received = .ok t ∧
      t.Commands 0xF6 [0x30] destination := by
  intro destination
  obtain ⟨-, hfits⟩ := commands_read_back 0xF6 [0x30] destination
  obtain ⟨p, received, hbuild, hdecode, -, hread, hcommands⟩ := hfits (by decide)
  obtain ⟨t, hparse⟩ := hread.mpr ⟨.rps, 1, by decide, by decide⟩
  cases hbuild
  exact ⟨_, received, t, rfl, rfl, hdecode, hparse, hcommands t hparse⟩

end Telegram

end Esp3Host
