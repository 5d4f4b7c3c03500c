import Esp3Host.Proofs.Checksum.Parity
import Esp3Host.Proofs.Packet.Damage

/-!
# Frames under an odd number of bit errors

Errors behind the header leave both lengths, the kind and the header checksum as they were sent, so
the frame is still read, with both sections and the payload checksum as they arrived.  If the number
of flipped bits is odd, the payload checksum does not fit, whatever bits they are.
-/

namespace Esp3Host.Packet

structure PayloadError (p : Packet) where
  inData : Bytes
  inOptional : Bytes
  inCheck : UInt8
  length_inData : inData.length = p.data.length
  length_inOptional : inOptional.length = p.optional.length

namespace PayloadError

variable {p : Packet}

def bytes (e : PayloadError p) : Bytes := e.inData ++ e.inOptional ++ [e.inCheck]

/-- What is read in place of the packet. -/
def received (e : PayloadError p) : Packet :=
  { p with
    data := p.data.flip e.inData
    optional := p.optional.flip e.inOptional
    payloadCheck := p.payloadCheck ^^^ e.inCheck }

theorem payloadCode_received (e : PayloadError p) :
    e.received.payloadCode = p.payloadCode.flip e.bytes := by
  rw [payloadCode, payloadCode, bytes,
    Bytes.flip_append (by simp [e.length_inData, e.length_inOptional]),
    Bytes.flip_append e.length_inData.symm]
  rfl

theorem headerCode_received (e : PayloadError p) : e.received.headerCode = p.headerCode := by
  simp [headerCode, received, e.length_inData, e.length_inOptional]

theorem encode_received (e : PayloadError p) :
    e.received.encode = p.encode.flip (List.replicate 6 0 ++ e.bytes) := by
  have hintact : p.headerCode.flip (List.replicate 5 0) = p.headerCode :=
    Bytes.flip_of_intact rfl (by decide)
  have hflip := @encode_flip p 0 (List.replicate 5 0) e.bytes rfl
  rw [hintact, UInt8.xor_zero, ← e.headerCode_received, ← e.payloadCode_received] at hflip
  rw [encode_eq_codes]
  exact hflip.symm

theorem fits_received (e : PayloadError p) (h : p.Fits) : e.received.Fits := by
  refine ⟨?_, ?_⟩
  · simpa [received, e.length_inData] using h.data
  · simpa [received, e.length_inOptional] using h.optional

theorem headerChecksum_received (e : PayloadError p) :
    e.received.headerChecksum = p.headerChecksum := by
  simp [headerChecksum, received, e.length_inData, e.length_inOptional]

theorem payloadChecksum_received_ne (e : PayloadError p) (h : p.Built)
    (hodd : Odd (e.bytes.bits.count true)) :
    e.received.payloadChecksum ≠ e.received.payloadCheck := by
  intro hfits
  have hlength : p.payloadCode.length = e.bytes.length := by
    simp [payloadCode, bytes, e.length_inData, e.length_inOptional]
  apply checksum_flip_ne_of_odd hlength hodd
  rw [← e.payloadCode_received, h.checksum_payloadCode]
  rw [payloadChecksum, checksumOfTwo_eq] at hfits
  exact checksum_append_eq_zero_iff.mpr hfits

end PayloadError

/--
Any odd number of flipped bits behind the header leaves a frame that is read, and its payload
checksum is found to be wrong: the one over the sections as they arrived differs from the one that
arrived with them.
-/
theorem Built.odd_errors_detected {p : Packet} (h : p.Built) (e : PayloadError p)
    (hodd : Odd (e.bytes.bits.count true)) :
    decode (p.encode.flip (List.replicate 6 0 ++ e.bytes)) = .ok e.received ∧
      e.received.validate =
        .error (.payloadChecksum (checksum (e.received.data ++ e.received.optional))
          e.received.payloadCheck) := by
  have hread := decode_encode_append (e.fits_received h.fits) []
  rw [List.append_nil, e.encode_received] at hread
  have hheader : e.received.headerChecksum = e.received.headerCheck :=
    e.headerChecksum_received.trans h.headerChecksum
  refine ⟨hread, ?_⟩
  rw [Packet.validate, if_neg (not_not_intro hheader),
    if_pos (e.payloadChecksum_received_ne h hodd), payloadChecksum, checksumOfTwo_eq]

theorem Built.odd_errors_detected_three_bits :
    let p := Packet.sealed .radio [0xF6, 0x30, 0x00, 0x2E, 0xE1, 0xBD, 0x30] [0x01, 0xFF]
    let e : PayloadError p := ⟨[0, 0x10, 0, 0, 0, 0, 0], [0, 0x01], 0x80, rfl, rfl⟩
    p.Built ∧ Odd (e.bytes.bits.count true) ∧
      decode (p.encode.flip (List.replicate 6 0 ++ e.bytes)) = .ok e.received ∧
      e.received.validate =
        .error (.payloadChecksum (checksum (e.received.data ++ e.received.optional))
          e.received.payloadCheck) := by
  intro p e
  have hbuilt : p.Built := built_sealed (by decide) (by decide)
  have hodd : Odd (e.bytes.bits.count true) := by
    have hthree : e.bytes.bits.count true = 3 := by decide
    rw [hthree]
    decide
  exact ⟨hbuilt, hodd, hbuilt.odd_errors_detected e hodd⟩

end Esp3Host.Packet
