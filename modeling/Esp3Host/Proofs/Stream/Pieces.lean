import Esp3Host.Proofs.Stream.Assembly
import Esp3Host.Proofs.Stream.Chunks

/-!
# What becomes of every byte

The scan cuts a stream into pieces: bytes of noise, sync bytes whose candidate was rejected, and
frames.  The pieces with what is left over are the stream again (`pieces_cover`), and their reports
are those of the scan (`scan_eq_pieces`), so every report has its place in the stream.  A frame that
occurs in the stream can only be missing from the pieces if one that began earlier covers its place,
or if the scan came to a stop at a candidate in front of it.
-/

namespace Esp3Host

namespace Scan

open Packet (syncByte)

inductive Piece where
  | noise (byte : UInt8)
  | rejected (cause : FramingError)
  | frame (p : Packet)

namespace Piece

def bytes : Piece → Bytes
  | noise byte => [byte]
  | rejected _ => [syncByte]
  | frame p => p.encode

def report? : Piece → Option Report
  | noise _ => none
  | rejected cause => some (.error cause)
  | frame p => some (.ok p)

end Piece

def pieces : Bytes → List Piece × Bytes
  | [] => ([], [])
  | byte :: rest =>
      if byte ≠ syncByte then
        let (found, left) := pieces rest
        (.noise byte :: found, left)
      else
        match candidate? (byte :: rest) with
        | none => ([], byte :: rest)
        | some (.error cause, _) =>
            let (found, left) := pieces rest
            (.rejected cause :: found, left)
        | some (.ok p, length) =>
            let (found, left) := pieces (rest.drop (length - 1))
            (.frame p :: found, left)
termination_by stream => stream.length

theorem pieces_cons_of_ne {byte : UInt8} (h : byte ≠ syncByte) (rest : Bytes) :
    pieces (byte :: rest) = (.noise byte :: (pieces rest).1, (pieces rest).2) := by
  rw [pieces, if_pos h]

theorem pieces_of_candidate_none {rest : Bytes} (h : candidate? (syncByte :: rest) = none) :
    pieces (syncByte :: rest) = ([], syncByte :: rest) := by
  rw [pieces, if_neg (by simp), h]

theorem pieces_of_candidate_error {rest : Bytes} {cause : FramingError} {length : Nat}
    (h : candidate? (syncByte :: rest) = some (.error cause, length)) :
    pieces (syncByte :: rest) = (.rejected cause :: (pieces rest).1, (pieces rest).2) := by
  rw [pieces, if_neg (by simp), h]

theorem pieces_of_candidate_ok {rest : Bytes} {p : Packet} {length : Nat}
    (h : candidate? (syncByte :: rest) = some (.ok p, length)) :
    pieces (syncByte :: rest) =
      (.frame p :: (pieces (rest.drop (length - 1))).1, (pieces (rest.drop (length - 1))).2) := by
  rw [pieces, if_neg (by simp), h]

theorem scan_eq_pieces (stream : Bytes) :
    scan stream = ((pieces stream).1.filterMap Piece.report?, (pieces stream).2) := by
  fun_induction pieces stream with
  | case1 => exact scan_nil
  | case2 byte rest hbyte found left hfound ih =>
      rw [scan_cons_of_ne hbyte, ih, hfound]
      rfl
  | case3 byte rest hbyte hcandidate =>
      cases Decidable.not_not.mp hbyte
      exact scan_of_candidate_none hcandidate
  | case4 byte rest hbyte cause length hcandidate found left hfound ih =>
      cases Decidable.not_not.mp hbyte
      rw [scan_of_candidate_error hcandidate, ih, hfound]
      rfl
  | case5 byte rest hbyte p length hcandidate found left hfound ih =>
      cases Decidable.not_not.mp hbyte
      rw [scan_of_candidate_ok hcandidate, ih, hfound]
      rfl

theorem encode_of_candidate_ok {stream : Bytes} {p : Packet} {length : Nat}
    (h : candidate? stream = some (.ok p, length)) :
    p.Built ∧ length = p.wireLength ∧ stream = p.encode ++ stream.drop length := by
  obtain ⟨hle, hvalid, -⟩ := candidate?_take_of_ok h
  obtain ⟨hbuilt, rest, htake⟩ := Packet.built_of_decodeValid hvalid
  have hstream : stream = p.encode ++ (rest ++ stream.drop length) := by
    rw [← List.append_assoc, ← htake, List.take_append_drop]
  have hverdict := candidate?_encode_append hbuilt (rest ++ stream.drop length)
  rw [← hstream, h] at hverdict
  have hlength : length = p.wireLength := by
    simp only [Option.some.injEq, Prod.mk.injEq, true_and] at hverdict
    exact hverdict
  refine ⟨hbuilt, hlength, ?_⟩
  have hdrop := congrArg (List.drop length) hstream
  rw [List.drop_left' ((Packet.length_encode p).trans hlength.symm)] at hdrop
  rw [hdrop]
  exact hstream

theorem cons_eq_encode_append {byte : UInt8} {rest : Bytes} {p : Packet} {length : Nat}
    (h : candidate? (byte :: rest) = some (.ok p, length)) :
    byte :: rest = p.encode ++ rest.drop (length - 1) := by
  obtain ⟨-, hlength, hstream⟩ := encode_of_candidate_ok h
  have hpos : length = length - 1 + 1 := by
    have hwire := p.wireLength_pos
    omega
  rw [hpos, List.drop_succ_cons] at hstream
  exact hstream

theorem built_of_scan {stream : Bytes} {p : Packet} (h : .ok p ∈ (scan stream).1) : p.Built := by
  fun_induction scan stream with
  | case1 => cases h
  | case2 byte rest hbyte ih => exact ih h
  | case3 byte rest => cases h
  | case4 byte rest _ cause length _ reports left hscan ih =>
      rw [hscan] at ih
      rcases List.mem_cons.mp h with hfirst | hlater
      · cases hfirst
      · exact ih hlater
  | case5 byte rest _ q length hcandidate reports left hscan ih =>
      rw [hscan] at ih
      rcases List.mem_cons.mp h with hfirst | hlater
      · cases hfirst
        exact (encode_of_candidate_ok hcandidate).1
      · exact ih hlater

theorem pieces_cover (stream : Bytes) :
    (pieces stream).1.flatMap Piece.bytes ++ (pieces stream).2 = stream := by
  fun_induction pieces stream with
  | case1 => rfl
  | case2 byte rest hbyte found left hfound ih =>
      rw [hfound] at ih
      simpa [Piece.bytes] using ih
  | case3 byte rest => rfl
  | case4 byte rest hbyte cause length hcandidate found left hfound ih =>
      rw [hfound] at ih
      cases Decidable.not_not.mp hbyte
      simpa [Piece.bytes] using ih
  | case5 byte rest hbyte p length hcandidate found left hfound ih =>
      rw [hfound] at ih
      rw [cons_eq_encode_append hcandidate, ← ih]
      simp [Piece.bytes]

/-! ## Frames among the pieces -/

def extent (found : List Piece) : Nat := (found.flatMap Piece.bytes).length

@[simp] theorem extent_cons (piece : Piece) (found : List Piece) :
    extent (piece :: found) = piece.bytes.length + extent found := by
  simp [extent]

/-- A frame is one of the pieces, and this many bytes stand in front of it. -/
def FrameAt (found : List Piece) (p : Packet) (start : Nat) : Prop :=
  ∃ front behind, found = front ++ .frame p :: behind ∧ extent front = start

/-- What became of a frame that begins at a place of the stream. -/
inductive Accounted (found : List Piece) (left : Bytes) (p : Packet) (place : Nat) : Prop
  | reported (h : FrameAt found p place)
  | covered (q : Packet) (start : Nat) (h : FrameAt found q start) (hstart : start < place)
      (hend : place < start + q.wireLength)
  | pending (body : Bytes) (hleft : left = syncByte :: body) (hstart : extent found < place)

theorem FrameAt.cons {found : List Piece} {p : Packet} {start : Nat} (h : FrameAt found p start)
    (piece : Piece) : FrameAt (piece :: found) p (piece.bytes.length + start) := by
  obtain ⟨front, behind, rfl, rfl⟩ := h
  exact ⟨piece :: front, behind, rfl, extent_cons piece front⟩

theorem Accounted.cons {found : List Piece} {left : Bytes} {p : Packet} {place later : Nat}
    (h : Accounted found left p place) (piece : Piece)
    (hlater : later = piece.bytes.length + place) : Accounted (piece :: found) left p later := by
  subst hlater
  cases h with
  | reported h => exact .reported (h.cons piece)
  | covered q start h hstart hend =>
      exact .covered q _ (h.cons piece) (by omega) (by omega)
  | pending body hleft hstart =>
      refine .pending body hleft ?_
      rw [extent_cons]
      omega

theorem front_of_encode {byte : UInt8} {rest after : Bytes} {p : Packet} (hp : p.Built)
    (hstream : byte :: rest = p.encode ++ after) :
    byte = syncByte ∧ candidate? (byte :: rest) = some (.ok p, p.wireLength) := by
  have hverdict := candidate?_encode_append hp after
  rw [← hstream] at hverdict
  rw [Packet.encode_append] at hstream
  exact ⟨(List.cons.inj hstream).1, hverdict⟩

theorem accounted_of_occurs {p : Packet} (hp : p.Built) (stream before after : Bytes)
    (hstream : stream = before ++ (p.encode ++ after)) :
    Accounted (pieces stream).1 (pieces stream).2 p before.length := by
  fun_induction pieces stream generalizing before with
  | case1 =>
      have hlength := congrArg List.length hstream
      simp [Packet.wireLength, Packet.overhead] at hlength
      omega
  | case2 byte rest hbyte found left hfound ih =>
      cases before with
      | nil => exact absurd (front_of_encode hp hstream).1 hbyte
      | cons first before =>
          obtain ⟨-, hrest⟩ := List.cons.inj hstream
          have hlater := ih before hrest
          rw [hfound] at hlater
          exact hlater.cons (.noise byte) (Nat.add_comm before.length 1)
  | case3 byte rest hbyte hcandidate =>
      cases before with
      | nil => cases hcandidate.symm.trans (front_of_encode hp hstream).2
      | cons first before =>
          cases Decidable.not_not.mp hbyte
          exact .pending rest rfl (Nat.zero_lt_succ _)
  | case4 byte rest hbyte cause length hcandidate found left hfound ih =>
      cases before with
      | nil => cases hcandidate.symm.trans (front_of_encode hp hstream).2
      | cons first before =>
          obtain ⟨-, hrest⟩ := List.cons.inj hstream
          have hlater := ih before hrest
          rw [hfound] at hlater
          exact hlater.cons (.rejected cause) (Nat.add_comm before.length 1)
  | case5 byte rest hbyte q length hcandidate found left hfound ih =>
      cases before with
      | nil =>
          cases hcandidate.symm.trans (front_of_encode hp hstream).2
          exact .reported ⟨[], found, rfl, rfl⟩
      | cons first before =>
          obtain ⟨-, hlength, hframe⟩ := encode_of_candidate_ok hcandidate
          rcases Nat.lt_or_ge (before.length + 1) length with hshort | hlong
          · exact .covered q 0 ⟨[], found, rfl, rfl⟩ (Nat.zero_lt_succ _) (by
              rw [Nat.zero_add, ← hlength]
              exact hshort)
          · -- the frame that was found ends in front of this one, and the scan goes on there
            obtain ⟨-, hrest⟩ := List.cons.inj hstream
            have hpos : 0 < length := hlength ▸ q.wireLength_pos
            have hdrop : rest.drop (length - 1) =
                before.drop (length - 1) ++ (p.encode ++ after) := by
              rw [hrest, List.append_eq, List.drop_append_of_le_length (by omega)]
            have hlater := ih (before.drop (length - 1)) hdrop
            rw [hfound] at hlater
            refine hlater.cons (.frame q) ?_
            simp only [Piece.bytes, Packet.length_encode, ← hlength, List.length_drop,
              List.length_cons]
            omega

end Scan

namespace Assembler

open Scan (pieces Piece Accounted)

theorem Waiting.built_of_push {a : Assembler} (h : a.Waiting) {bytes : Bytes} {p : Packet}
    (hp : .ok p ∈ (a.push bytes).2) : p.Built := by
  rw [(push_eq_scan h bytes).2.2] at hp
  exact Scan.built_of_scan hp

theorem pushAll_frames {packets : List Packet} (h : ∀ p ∈ packets, p.Built)
    {chunks : List Bytes} (hstream : chunks.flatten = (packets.map Packet.encode).flatten) :
    pushAll {} chunks = ({}, packets.map .ok) := by
  rw [pushAll_eq_push, hstream]
  obtain ⟨hwaiting, hbuffer, hreports⟩ :=
    push_eq_scan waiting_empty (packets.map Packet.encode).flatten
  rw [Array.toList_empty, List.nil_append, Scan.scan_frames h] at hbuffer hreports
  exact Prod.ext (hwaiting.eq_empty hbuffer) hreports

theorem pushAll_eq_pieces (chunks : List Bytes) :
    (pushAll {} chunks).1.Waiting ∧
      (pushAll {} chunks).2 = (pieces chunks.flatten).1.filterMap Piece.report? ∧
      (pushAll {} chunks).1.buffer.toList = (pieces chunks.flatten).2 := by
  obtain ⟨hwaiting, hbuffer, hreports⟩ := push_eq_scan waiting_empty chunks.flatten
  rw [Array.toList_empty, List.nil_append, Scan.scan_eq_pieces] at hbuffer hreports
  rw [pushAll_eq_push]
  exact ⟨hwaiting, hreports, hbuffer⟩

/--
Whatever stands around an intact frame, and however the stream is cut: the reports and the buffer
are those of the pieces, which make up the stream, and among these the frame is reported at its
place, or covered by one that began earlier, or it lies in the buffer behind an earlier sync byte
whose candidate is not complete.
-/
theorem intact_frame_accounted (p : Packet) (hp : p.Built) (before after : Bytes)
    (chunks : List Bytes) (hstream : chunks.flatten = before ++ (p.encode ++ after)) :
    (pushAll {} chunks).2 = (pieces chunks.flatten).1.filterMap Piece.report? ∧
      (pieces chunks.flatten).1.flatMap Piece.bytes ++ (pushAll {} chunks).1.buffer.toList =
        chunks.flatten ∧
      Scan.candidate? (pushAll {} chunks).1.buffer.toList = none ∧
      Accounted (pieces chunks.flatten).1 (pushAll {} chunks).1.buffer.toList p before.length := by
  obtain ⟨hwaiting, hreports, hbuffer⟩ := pushAll_eq_pieces chunks
  refine ⟨hreports, ?_, hwaiting.unsettled, ?_⟩
  · rw [hbuffer, Scan.pieces_cover]
  · rw [hbuffer]
    exact Scan.accounted_of_occurs hp _ before after hstream

theorem intact_frame_accounted_truncated :
    let p := Packet.sealed .commonCommand [0x03] []
    let chunks := [[0x55], 0x00 :: p.encode.take 3, p.encode.drop 3]
    (pushAll {} chunks).2 = (pieces chunks.flatten).1.filterMap Piece.report? ∧
      (pieces chunks.flatten).1.flatMap Piece.bytes ++ (pushAll {} chunks).1.buffer.toList =
        chunks.flatten ∧
      Scan.candidate? (pushAll {} chunks).1.buffer.toList = none ∧
      Accounted (pieces chunks.flatten).1 (pushAll {} chunks).1.buffer.toList p 2 := by
  intro p chunks
  exact intact_frame_accounted p (Packet.built_sealed (by decide) (by decide)) [0x55, 0x00] []
    chunks rfl

end Assembler

end Esp3Host
