import Esp3Host.Proofs.Packet.Damage
import Esp3Host.Proofs.Stream.Assembly
import Esp3Host.Proofs.Stream.Chunks

/-!
# Damage stays where it is

A stream of intact frames, noise and frames under a burst is read segment by segment.  The checksum
that a burst breaks turns its frame into one error, and as no sync byte stands behind the one that
is given up, the scan arrives at the next segment with nothing kept from this one.
-/

namespace Esp3Host

open Packet (syncByte)

/-- A frame with a burst behind its sync byte that leaves no further sync byte in it. -/
structure DamagedFrame where
  packet : Packet
  built : packet.Built
  error : Bytes
  length_error : error.length + 1 = packet.wireLength
  burst : Burst error.bits
  no_sync : syncByte ∉ (packet.encode.flip (0 :: error)).tail

namespace DamagedFrame

def bytes (d : DamagedFrame) : Bytes := d.packet.encode.flip (0 :: d.error)

@[simp] theorem length_bytes (d : DamagedFrame) : d.bytes.length = d.packet.wireLength := by
  simp [bytes, d.length_error]

theorem bytes_eq (d : DamagedFrame) : d.bytes = syncByte :: d.bytes.tail := by
  rw [bytes, Packet.encode_eq_codes]
  rfl

theorem decodeValid_bytes (d : DamagedFrame) :
    ∃ cause, Packet.decodeValid d.bytes = .error cause := by
  have hlength : (0 :: d.error : Bytes).length = d.packet.wireLength := d.length_error
  apply d.built.decodeValid_flip hlength
  rw [Bytes.bits_cons]
  exact d.burst.behind (by decide)

theorem candidate_error (d : DamagedFrame) (rest : Bytes) :
    ∃ cause length, Scan.candidate? (d.bytes ++ rest) = some (.error cause, length) := by
  have hlength : (0 :: d.error : Bytes).length = d.packet.wireLength := d.length_error
  obtain ⟨first, inHeader, inPayload, herror, hheader, -⟩ := Packet.exists_parts hlength
  obtain ⟨rfl, hbehind⟩ := List.cons.inj herror
  have hburst := d.burst
  rw [hbehind, Bytes.bits_append] at hburst
  have hbytes : d.bytes = syncByte :: (d.packet.headerCode.flip inHeader ++
      d.packet.payloadCode.flip inPayload) := by
    rw [bytes, hbehind, Packet.encode_flip hheader]
    rfl
  obtain ⟨high, low, extra, code, received, hcode⟩ : ∃ high low extra code received,
      d.packet.headerCode.flip inHeader = [high, low, extra, code, received] := by
    have hfive : (d.packet.headerCode.flip inHeader).length = 5 := by
      simp [hheader]
    match d.packet.headerCode.flip inHeader, hfive with
    | [high, low, extra, code, received], _ => exact ⟨high, low, extra, code, received, rfl⟩
  have hstream : d.bytes ++ rest = syncByte :: high :: low :: extra :: code :: received ::
      (d.packet.payloadCode.flip inPayload ++ rest) := by
    rw [hbytes, hcode]
    simp
  by_cases hcheck : checksum [high, low, extra, code] = received
  case neg =>
    refine ⟨.headerChecksum (checksum [high, low, extra, code]) received, 1, ?_⟩
    rw [hstream, Scan.candidate?_header rfl, if_pos hcheck]
  case pos =>
    -- the header was not hit, so the candidate is as long as the frame
    have hzero : checksum (d.packet.headerCode.flip inHeader) = 0 := by
      have hfits : checksum ([high, low, extra, code] ++ [received]) = 0 :=
        checksum_append_eq_zero_iff.mpr hcheck
      rw [hcode]
      exact hfits
    have hintact := (d.built.intact_of_checksum hheader hburst hzero).1
    have htold : Packet.frameLength? (syncByte :: high :: low :: extra :: code :: received ::
        (d.packet.payloadCode.flip inPayload ++ rest)) = some d.packet.wireLength := by
      have hsent := Packet.frameLength?_encode_append d.built.fits []
      rw [List.append_nil, Packet.encode_eq_codes, ← hintact, hcode] at hsent
      exact hsent
    have hsize := congrArg List.length hstream
    have htake : (d.bytes ++ rest).take d.packet.wireLength = d.bytes :=
      List.take_left' d.length_bytes
    obtain ⟨cause, hverdict⟩ := d.decodeValid_bytes
    refine ⟨cause, d.packet.wireLength, ?_⟩
    simp only [List.length_append, length_bytes, List.length_cons] at hsize
    rw [hstream] at htake ⊢
    rw [Scan.candidate?_header htold, if_neg (not_not_intro hcheck), if_neg, htake, hverdict]
    rw [List.length_append]
    omega

end DamagedFrame

/-! ## Segments -/

inductive Segment where
  | frame (p : Packet) (built : p.Built)
  | noise (bytes : Bytes) (no_sync : syncByte ∉ bytes)
  | damaged (d : DamagedFrame)

def Segment.bytes : Segment → Bytes
  | frame p _ => p.encode
  | noise bytes _ => bytes
  | damaged d => d.bytes

/-- The reports on a list of segments: the packet of a frame, nothing on noise, one error on a
damaged frame. -/
inductive Segment.Told : List Segment → List Report → Prop
  | nil : Told [] []
  | frame (p built) {rest reports} (h : Told rest reports) :
      Told (.frame p built :: rest) (.ok p :: reports)
  | noise (bytes no_sync) {rest reports} (h : Told rest reports) :
      Told (.noise bytes no_sync :: rest) reports
  | damaged (d cause) {rest reports} (h : Told rest reports) :
      Told (.damaged d :: rest) (.error cause :: reports)

namespace Scan

theorem scan_noise_append {bytes : Bytes} (h : syncByte ∉ bytes) (rest : Bytes) :
    scan (bytes ++ rest) = scan rest := by
  induction bytes with
  | nil => rfl
  | cons byte later ih =>
      rw [List.mem_cons, not_or] at h
      rw [List.cons_append, scan_cons_of_ne (Ne.symm h.1)]
      exact ih h.2

theorem scan_damaged_append (d : DamagedFrame) (rest : Bytes) :
    ∃ cause, scan (d.bytes ++ rest) = (.error cause :: (scan rest).1, (scan rest).2) := by
  obtain ⟨cause, length, hverdict⟩ := d.candidate_error rest
  refine ⟨cause, ?_⟩
  rw [d.bytes_eq, List.cons_append] at hverdict ⊢
  have hbehind : scan (d.bytes.tail ++ rest) = scan rest := scan_noise_append d.no_sync rest
  rw [scan_of_candidate_error hverdict, hbehind]

theorem told_scan (segments : List Segment) :
    Segment.Told segments (scan (segments.flatMap Segment.bytes)).1 ∧
      (scan (segments.flatMap Segment.bytes)).2 = [] := by
  induction segments with
  | nil =>
      rw [List.flatMap_nil, scan_nil]
      exact ⟨.nil, rfl⟩
  | cons segment rest ih =>
      obtain ⟨htold, hleft⟩ := ih
      rw [List.flatMap_cons]
      cases segment with
      | frame p built =>
          simp only [Segment.bytes, scan_encode_append built]
          exact ⟨.frame p built htold, hleft⟩
      | noise bytes no_sync =>
          simp only [Segment.bytes, scan_noise_append no_sync]
          exact ⟨.noise bytes no_sync htold, hleft⟩
      | damaged d =>
          obtain ⟨cause, hscan⟩ := scan_damaged_append d (rest.flatMap Segment.bytes)
          simp only [Segment.bytes, hscan]
          exact ⟨.damaged d cause htold, hleft⟩

end Scan

/--
Intact frames, noise and damaged frames in any number and order, cut in any way: every segment gives
the reports that it gives alone, and nothing stays in the buffer.
-/
theorem Assembler.damage_is_local (segments : List Segment) (chunks : List Bytes)
    (hstream : chunks.flatten = segments.flatMap Segment.bytes) :
    Segment.Told segments (pushAll {} chunks).2 ∧ (pushAll {} chunks).1 = {} := by
  obtain ⟨hwaiting, hbuffer, hreports⟩ := push_eq_scan waiting_empty chunks.flatten
  obtain ⟨htold, hleft⟩ := Scan.told_scan segments
  rw [Array.toList_empty, List.nil_append] at hbuffer hreports
  rw [← hstream] at htold hleft
  rw [pushAll_eq_push, hreports]
  exact ⟨htold, hwaiting.eq_empty (hbuffer.trans hleft)⟩

def DamagedFrame.straddled : DamagedFrame where
  packet := .sealed .response [0x00] []
  built := Packet.built_sealed (by decide) (by decide)
  error := [0, 0, 0, 0, 0x0F, 0xF0, 0]
  length_error := rfl
  burst := by
    refine ⟨by decide, 36, ?_⟩
    intro i hi
    obtain ⟨hlt, -⟩ := List.getElem?_eq_some_iff.mp hi
    have hall : ∀ j < 56, (Bytes.bits [0, 0, 0, 0, 0x0F, 0xF0, 0])[j]? = some true →
        36 ≤ j ∧ j < 36 + 8 := by decide
    exact hall i hlt hi
  no_sync := by decide +kernel

theorem Assembler.damage_is_local_straddled :
    let d := DamagedFrame.straddled
    let p := Packet.sealed .commonCommand [0x03] []
    let chunks := [[0x13], 0xFF :: d.bytes.take 6, d.bytes.drop 6 ++ p.encode]
    Segment.Told
        [.noise [0x13, 0xFF] (by decide), .damaged d,
          .frame p (Packet.built_sealed (by decide) (by decide))]
        (pushAll {} chunks).2 ∧
      (pushAll {} chunks).1 = {} := by
  intro d p chunks
  exact damage_is_local _ chunks rfl

end Esp3Host
