import Esp3Host.Proofs.Packet.Codec
import Esp3Host.Scan

/-!
# Candidates and the scan

Equations of the scan, one for each thing that can stand at its position.  A candidate that is
settled stays settled when more bytes follow, because its verdict looks no further than its end.
-/

namespace Esp3Host.Scan

open Packet (syncByte overhead frameLength? decodeValid)

/-! ## Candidates -/

theorem candidate?_header {sync high low extra code received : UInt8} {rest : Bytes} {length : Nat}
    (hlength : frameLength? (sync :: high :: low :: extra :: code :: received :: rest) =
      some length) :
    candidate? (sync :: high :: low :: extra :: code :: received :: rest) =
      if checksum [high, low, extra, code] ≠ received then
        some (.error (.headerChecksum (checksum [high, low, extra, code]) received), 1)
      else if rest.length + 6 < length then none
      else
        some
          (decodeValid ((sync :: high :: low :: extra :: code :: received :: rest).take length),
            length) := by
  cases hlength
  rfl

theorem header_of_candidate_none {sync high low extra code received : UInt8} {rest : Bytes}
    {length : Nat}
    (h : candidate? (sync :: high :: low :: extra :: code :: received :: rest) = none)
    (hlength : frameLength? (sync :: high :: low :: extra :: code :: received :: rest) =
      some length) :
    checksum [high, low, extra, code] = received ∧ rest.length + 6 < length := by
  rw [candidate?_header hlength] at h
  split at h
  case isTrue => cases h
  case isFalse hcheck =>
    split at h
    case isTrue hmissing => exact ⟨Decidable.not_not.mp hcheck, hmissing⟩
    case isFalse => cases h

theorem lt_of_candidate_none {stream : Bytes} {length : Nat} (h : candidate? stream = none)
    (hlength : frameLength? stream = some length) : stream.length < length := by
  obtain ⟨sync, high, low, extra, rest, rfl, hannounced⟩ :=
    Packet.frameLength?_eq_some_iff.mp hlength
  match rest with
  | code :: received :: rest => exact (header_of_candidate_none h hlength).2
  | [] | [_] =>
      simp only [List.length_cons, List.length_nil]
      omega

theorem candidate?_append {stream : Bytes} {verdict : Report × Nat}
    (h : candidate? stream = some verdict) (more : Bytes) :
    candidate? (stream ++ more) = some verdict := by
  match stream with
  | sync :: high :: low :: extra :: code :: received :: rest =>
      simp only [List.cons_append]
      rw [candidate?_header rfl] at h ⊢
      split at h
      case isTrue hcheck => rw [if_pos hcheck, h]
      case isFalse hcheck =>
        split at h
        case isTrue => simp at h
        case isFalse hcomplete =>
          rw [if_neg hcheck, if_neg (by simp only [List.length_append]; omega), ← h]
          congr 3
          have henough : overhead + (256 * high.toNat + low.toNat) + extra.toNat ≤
              (sync :: high :: low :: extra :: code :: received :: rest).length := by
            simp only [List.length_cons]
            omega
          exact List.take_append_of_le_length henough

theorem candidate?_take_of_ok {stream : Bytes} {p : Packet} {length : Nat}
    (h : candidate? stream = some (.ok p, length)) :
    length ≤ stream.length ∧ decodeValid (stream.take length) = .ok p ∧
      candidate? (stream.take length) = some (.ok p, length) := by
  match stream with
  | sync :: high :: low :: extra :: code :: received :: rest =>
      obtain ⟨announced, hannounced⟩ : ∃ announced, frameLength?
          (sync :: high :: low :: extra :: code :: received :: rest) = some (announced + 6) := by
        refine ⟨1 + (256 * high.toNat + low.toNat) + extra.toNat, ?_⟩
        simp only [frameLength?, overhead, Option.some.injEq]
        omega
      have htaken : frameLength? (sync :: high :: low :: extra :: code :: received ::
          rest.take announced) = some (announced + 6) := hannounced
      rw [candidate?_header hannounced] at h
      split at h
      case isTrue => simp at h
      case isFalse hcheck =>
        split at h
        case isTrue => simp at h
        case isFalse hcomplete =>
          simp only [Option.some.injEq, Prod.mk.injEq] at h
          obtain ⟨hdecode, rfl⟩ := h
          refine ⟨by simp only [List.length_cons]; omega, hdecode, ?_⟩
          simp only [List.take_succ_cons] at hdecode ⊢
          rw [candidate?_header htaken, if_neg hcheck,
            if_neg (by simp only [List.length_take]; omega)]
          simp only [List.take_succ_cons, List.take_take, Nat.min_self, hdecode]

/-! ## The scan at one position -/

@[simp] theorem scan_nil : scan [] = ([], []) := by
  rw [scan]

theorem scan_cons_of_ne {byte : UInt8} (h : byte ≠ syncByte) (rest : Bytes) :
    scan (byte :: rest) = scan rest := by
  rw [scan, if_pos h]

theorem scan_of_candidate_none {rest : Bytes} (h : candidate? (syncByte :: rest) = none) :
    scan (syncByte :: rest) = ([], syncByte :: rest) := by
  rw [scan, if_neg (by simp), h]

theorem scan_of_candidate_error {rest : Bytes} {cause : FramingError} {length : Nat}
    (h : candidate? (syncByte :: rest) = some (.error cause, length)) :
    scan (syncByte :: rest) = (.error cause :: (scan rest).1, (scan rest).2) := by
  rw [scan, if_neg (by simp), h]

theorem scan_of_candidate_ok {rest : Bytes} {p : Packet} {length : Nat}
    (h : candidate? (syncByte :: rest) = some (.ok p, length)) :
    scan (syncByte :: rest) =
      (.ok p :: (scan (rest.drop (length - 1))).1, (scan (rest.drop (length - 1))).2) := by
  rw [scan, if_neg (by simp), h]

theorem scan_left_suffix (stream : Bytes) : (scan stream).2 <:+ stream := by
  fun_induction scan stream with
  | case1 => exact List.suffix_refl []
  | case2 byte rest hbyte ih => exact ih.trans (List.suffix_cons byte rest)
  | case3 byte rest => exact List.suffix_refl _
  | case4 byte rest _ cause length _ reports left hscan ih =>
      rw [hscan] at ih
      exact ih.trans (List.suffix_cons byte rest)
  | case5 byte rest _ p length _ reports left hscan ih =>
      rw [hscan] at ih
      exact ih.trans ((List.drop_suffix (length - 1) rest).trans (List.suffix_cons byte rest))

/-! ## Frames in a stream -/

theorem candidate?_encode_append {p : Packet} (h : p.Built) (rest : Bytes) :
    candidate? (p.encode ++ rest) = some (.ok p, p.wireLength) := by
  have hlength := Packet.frameLength?_encode_append h.fits rest
  have htake : (p.encode ++ rest).take p.wireLength = p.encode :=
    List.take_left' (Packet.length_encode p)
  have hvalid := Packet.decodeValid_encode_append h []
  have hsize : (p.encode ++ rest).length = p.wireLength + rest.length := by
    simp
  have hcheck := h.headerChecksum
  simp only [Packet.headerChecksum, Packet.header] at hcheck
  rw [List.append_nil, ← htake] at hvalid
  rw [Packet.encode_append] at hlength hvalid hsize ⊢
  simp only [List.length_cons] at hsize
  rw [candidate?_header hlength, hvalid, if_neg (not_not_intro hcheck), if_neg (by omega)]

theorem scan_encode_append {p : Packet} (h : p.Built) (rest : Bytes) :
    scan (p.encode ++ rest) = (.ok p :: (scan rest).1, (scan rest).2) := by
  have hcandidate := candidate?_encode_append h rest
  have hdrop : (p.encode ++ rest).drop (p.wireLength - 1 + 1) = rest := by
    have hpos := p.wireLength_pos
    refine List.drop_left' ?_
    rw [Packet.length_encode]
    omega
  rw [Packet.encode_append] at hcandidate hdrop ⊢
  rw [scan_of_candidate_ok hcandidate, ← List.drop_succ_cons, hdrop]

theorem scan_frames {packets : List Packet} (h : ∀ p ∈ packets, p.Built) :
    scan (packets.map Packet.encode).flatten = (packets.map .ok, []) := by
  induction packets with
  | nil => exact scan_nil
  | cons p rest ih =>
      rw [List.forall_mem_cons] at h
      rw [List.map_cons, List.flatten_cons, scan_encode_append h.1, ih h.2]
      rfl

end Esp3Host.Scan
