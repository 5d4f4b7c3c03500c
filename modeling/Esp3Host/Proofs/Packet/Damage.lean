import Esp3Host.Proofs.Checksum.Burst
import Esp3Host.Proofs.Packet.Codec

/-!
# Frames under a burst

Behind the sync byte a frame consists of two codes, the header and the payload, each with its own
checksum at its end.  A burst may straddle the border between them.  If it touches the header code,
the header checksum fails; if it does not, all lengths are read as they were sent and the checksum
of the payload fails.  A frame under a burst is therefore never trusted.
-/

namespace Esp3Host.Packet

def headerCode (p : Packet) : Bytes :=
  header p.kind p.data.length p.optional.length ++ [p.headerCheck]

def payloadCode (p : Packet) : Bytes := p.data ++ p.optional ++ [p.payloadCheck]

theorem encode_eq_codes (p : Packet) : p.encode = syncByte :: (p.headerCode ++ p.payloadCode) := by
  simp [encode, headerCode, payloadCode]

@[simp] theorem length_headerCode (p : Packet) : p.headerCode.length = 5 := rfl

theorem length_payloadCode (p : Packet) : p.payloadCode.length + 6 = p.wireLength := by
  simp only [payloadCode, wireLength, overhead, List.length_append, List.length_singleton]
  omega

theorem Built.checksum_headerCode {p : Packet} (h : p.Built) : checksum p.headerCode = 0 :=
  checksum_append_eq_zero_iff.mpr h.headerChecksum

theorem Built.checksum_payloadCode {p : Packet} (h : p.Built) : checksum p.payloadCode = 0 := by
  have hpayload := (validate_eq_ok_iff.mp h.validate).2
  rw [payloadChecksum, checksumOfTwo_eq] at hpayload
  exact checksum_append_eq_zero_iff.mpr hpayload

theorem wireLength_of_headerCode {p q : Packet} (hp : p.Fits) (hq : q.Fits)
    (h : p.headerCode = q.headerCode) : p.wireLength = q.wireLength := by
  have hlength := frameLength?_encode_append hp []
  have hother := frameLength?_encode_append hq []
  rw [List.append_nil, encode_eq_codes] at hlength hother
  rw [h] at hlength
  exact Option.some.inj (hlength.symm.trans hother)

/-! ## Errors in the two codes -/

theorem encode_flip {p : Packet} {first : UInt8} {inHeader inPayload : Bytes}
    (hlength : inHeader.length = 5) :
    p.encode.flip (first :: (inHeader ++ inPayload)) =
      (syncByte ^^^ first) :: (p.headerCode.flip inHeader ++ p.payloadCode.flip inPayload) := by
  rw [encode_eq_codes, ← Bytes.flip_append (by rw [length_headerCode, hlength])]
  rfl

theorem Built.intact_of_checksum {p : Packet} (h : p.Built) {inHeader inPayload : Bytes}
    (hlength : inHeader.length = 5) (hburst : Burst (inHeader.bits ++ inPayload.bits))
    (hcheck : checksum (p.headerCode.flip inHeader) = 0) :
    p.headerCode.flip inHeader = p.headerCode ∧ Burst inPayload.bits := by
  have hsame : p.headerCode.length = inHeader.length := by
    rw [length_headerCode, hlength]
  have hintact : true ∉ inHeader.bits := by
    intro hmem
    apply checksum_flip_ne hsame (hburst.of_left hmem)
    rw [hcheck, h.checksum_headerCode]
  refine ⟨Bytes.flip_of_intact hsame hintact, hburst.of_right ?_⟩
  have hmem := hburst.nonzero
  rw [List.mem_append] at hmem
  exact hmem.resolve_left hintact

theorem Built.codes_flip_ne {p q : Packet} (hp : p.Built) (hq : q.Built)
    {inHeader inPayload : Bytes} (hheader : inHeader.length = 5)
    (hpayload : inPayload.length = p.payloadCode.length)
    (hburst : Burst (inHeader.bits ++ inPayload.bits)) (rest : Bytes) :
    p.headerCode.flip inHeader ++ p.payloadCode.flip inPayload ≠
      q.headerCode ++ (q.payloadCode ++ rest) := by
  intro hcodes
  have hcut : (p.headerCode.flip inHeader).length = q.headerCode.length := by
    simp [hheader]
  obtain ⟨hheaders, hpayloads⟩ := List.append_inj hcodes hcut
  obtain ⟨hintact, hlater⟩ :=
    hp.intact_of_checksum hheader hburst (hheaders ▸ hq.checksum_headerCode)
  have hsame : p.wireLength = q.wireLength :=
    wireLength_of_headerCode hp.fits hq.fits (hintact.symm.trans hheaders)
  have hrest : rest = [] := by
    have hbytes := congrArg List.length hpayloads
    simp only [Bytes.length_flip, List.length_append] at hbytes
    have hlengthp := length_payloadCode p
    have hlengthq := length_payloadCode q
    exact List.eq_nil_of_length_eq_zero (by omega)
  rw [hrest, List.append_nil] at hpayloads
  apply checksum_flip_ne hpayload.symm hlater
  rw [hpayloads, hq.checksum_payloadCode, hp.checksum_payloadCode]

theorem exists_parts {p : Packet} {error : Bytes} (hlength : error.length = p.wireLength) :
    ∃ first inHeader inPayload, error = first :: (inHeader ++ inPayload) ∧
      inHeader.length = 5 ∧ inPayload.length = p.payloadCode.length := by
  have hpayload := length_payloadCode p
  cases error with
  | nil =>
      rw [List.length_nil] at hlength
      omega
  | cons first behind =>
      rw [List.length_cons] at hlength
      refine ⟨first, behind.take 5, behind.drop 5, ?_, ?_, ?_⟩
      · rw [List.take_append_drop]
      · rw [List.length_take]
        omega
      · rw [List.length_drop]
        omega

theorem Built.decodeValid_flip {p : Packet} (h : p.Built) {error : Bytes}
    (hlength : error.length = p.wireLength) (hburst : Burst error.bits) :
    ∃ cause, decodeValid (p.encode.flip error) = .error cause := by
  cases hverdict : decodeValid (p.encode.flip error) with
  | error cause => exact ⟨cause, rfl⟩
  | ok q =>
      obtain ⟨hq, rest, hflip⟩ := built_of_decodeValid hverdict
      obtain ⟨first, inHeader, inPayload, rfl, hheader, hpayload⟩ := exists_parts hlength
      rw [encode_flip hheader, encode_eq_codes q, List.cons_append, List.append_assoc] at hflip
      obtain ⟨hsync, hcodes⟩ := List.cons.inj hflip
      have hfirst : first = 0 := by
        rw [← UInt8.xor_right_inj syncByte, hsync, UInt8.xor_zero]
      have hbehind : Burst (Bytes.bits inHeader ++ Bytes.bits inPayload) := by
        rw [hfirst, Bytes.bits_cons, Bytes.bits_append] at hburst
        refine hburst.of_right ?_
        have hmem := hburst.nonzero
        rw [List.mem_append] at hmem
        exact hmem.resolve_left (by decide)
      exact absurd hcodes (h.codes_flip_ne hq hheader hpayload hbehind rest)

/--
An intact frame is read and passes its checks.  Under any burst it is not read, or what is read in
its place fails one of the checks; the length fields may be hit, so that this can be another cut of
the bytes.
-/
theorem Built.burst_detected {p : Packet} (h : p.Built) {error : Bytes}
    (hlength : error.length = p.encode.length) (hburst : Burst error.bits) :
    decode p.encode = .ok p ∧ p.validate = .ok () ∧
      ((∃ cause, decode (p.encode.flip error) = .error cause) ∨
        ∃ q cause, decode (p.encode.flip error) = .ok q ∧ q.validate = .error cause) := by
  refine ⟨decode_eq_ok_iff.mpr ⟨h.fits, List.prefix_refl _⟩, h.validate, ?_⟩
  obtain ⟨cause, hrefused⟩ := h.decodeValid_flip (hlength.trans p.length_encode) hburst
  rcases decodeValid_eq_error_iff.mp hrefused with hunread | ⟨q, hread, hfault⟩
  · exact .inl ⟨cause, hunread⟩
  · exact .inr ⟨q, cause, hread, hfault⟩

theorem Built.burst_detected_shortened :
    let p := Packet.sealed .radio [0xF6] [0x03, 0x01, 0x02, 0x03, 0x04, 0xFF, 0x00, 0x00]
    let error : Bytes := [0, 0, 0x01, 0x08] ++ List.replicate 12 0
    error.length = p.encode.length ∧ Burst error.bits ∧
      decode (p.encode.flip error) =
        .ok ⟨.radio, [], [], p.headerCheck, 0xF6⟩ ∧
      ((∃ cause, decode (p.encode.flip error) = .error cause) ∨
        ∃ q cause, decode (p.encode.flip error) = .ok q ∧ q.validate = .error cause) := by
  intro p error
  have hbuilt : p.Built := built_sealed (by decide) (by decide)
  have hburst : Burst error.bits := by
    refine ⟨by decide, 23, fun i hi => ?_⟩
    obtain ⟨hlt, -⟩ := List.getElem?_eq_some_iff.mp hi
    have hall : ∀ j < 128, error.bits[j]? = some true → 23 ≤ j ∧ j < 23 + 8 := by decide +kernel
    exact hall i hlt hi
  have hlength : error.length = p.encode.length := by decide +kernel
  exact ⟨hlength, hburst, by cbv, (hbuilt.burst_detected hlength hburst).2.2⟩

end Esp3Host.Packet
