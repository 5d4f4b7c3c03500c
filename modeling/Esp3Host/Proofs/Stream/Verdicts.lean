import Esp3Host.Proofs.Stream.Recovery

/-!
# What an assembler keeps and what it reports

Whatever calls were made, the buffer of an assembler begins with a sync byte, the expected length is
the one that its header tells, and a header that is there has been found right.  So a candidate can
be settled in four ways only (`Verdict`): its header checksum is wrong, and then no more of it than
the header is there, or it is complete, and then it is a frame, is of an unknown kind or has a wrong
payload checksum.
-/

namespace Esp3Host

open Packet (syncByte overhead frameLength? decodeValid)

/-! ## Complete frames -/

namespace Packet

def Complete (bytes : Bytes) : Prop := frameLength? bytes = some bytes.length

theorem complete_encode {p : Packet} (h : p.Fits) : Complete p.encode := by
  have hlength := frameLength?_encode_append h []
  rwa [List.append_nil, ← length_encode] at hlength

theorem eq_encode_of_complete {bytes : Bytes} {p : Packet} (h : Complete bytes)
    (hdecode : decode bytes = .ok p) : p.Fits ∧ bytes = p.encode := by
  obtain ⟨hfits, rest, rfl⟩ := encode_of_decode hdecode
  have hlength := (frameLength?_encode_append hfits rest).symm.trans h
  simp only [Option.some.injEq, List.length_append, length_encode] at hlength
  have hrest : rest = [] := List.length_eq_zero_iff.mp (by omega)
  exact ⟨hfits, by rw [hrest, List.append_nil]⟩

theorem headerChecksum_of_encode {p : Packet} {high low extra code headerCheck : UInt8}
    {rest : Bytes}
    (h : p.encode = syncByte :: high :: low :: extra :: code :: headerCheck :: rest) :
    p.headerChecksum = checksum [high, low, extra, code] ∧ p.headerCheck = headerCheck := by
  rw [← List.append_nil p.encode, encode_append] at h
  simp only [List.cons.injEq, true_and] at h
  obtain ⟨rfl, rfl, rfl, rfl, rfl, -⟩ := h
  exact ⟨rfl, rfl⟩

theorem validate_eq_error_of_header {p : Packet} {cause : FramingError}
    (hheader : p.headerChecksum = p.headerCheck) (h : p.validate = .error cause) :
    p.payloadChecksum ≠ p.payloadCheck ∧
      cause = .payloadChecksum p.payloadChecksum p.payloadCheck := by
  rw [validate, if_neg (not_not_intro hheader)] at h
  split at h
  case isTrue hpayload =>
    cases h
    exact ⟨hpayload, rfl⟩
  case isFalse => cases h

end Packet

open Packet (Complete)

namespace Assembler

variable {a last : Assembler} {bytes pending : Bytes} {report : Report}

/-! ## What is kept -/

structure Consistent (a : Assembler) : Prop where
  begins : a.buffer.toList = [] ∨ ∃ body, a.buffer.toList = 0x55 :: body
  expected_none : a.expected = none ↔ a.buffered < 4
  expected_some : ∀ length, a.expected = some length →
    frameLength? a.buffer.toList = some length ∧ a.buffered < length
  header : 6 ≤ a.buffered →
    a.buffer.toList[5]? = some (checksum ((a.buffer.toList.drop 1).take 4))

theorem Waiting.consistent (h : a.Waiting) : a.Consistent := by
  have hsize : a.buffered = a.buffer.toList.length := Array.length_toList.symm
  refine ⟨h.begins, ?_, fun length hlength => ?_, fun hheader => ?_⟩
  · rw [h.expected, hsize, Packet.frameLength?_eq_none_iff]
  · rw [h.expected] at hlength
    exact ⟨hlength, hsize ▸ Scan.lt_of_candidate_none h.unsettled hlength⟩
  · have hopen := h.unsettled
    rw [hsize] at hheader
    match hbuffer : a.buffer.toList with
    | sync :: high :: low :: extra :: code :: received :: rest =>
        rw [hbuffer] at hopen
        exact congrArg some (Scan.header_of_candidate_none hopen rfl).1.symm
    | [] | [_] | [_, _] | [_, _, _] | [_, _, _, _] | [_, _, _, _, _] => simp [hbuffer] at hheader

/-! ## What is reported -/

/-- What is told about a candidate of these bytes. -/
inductive Verdict : Bytes → Report → Prop
  | header {high low extra code received : UInt8} (h : checksum [high, low, extra, code] ≠ received) :
      Verdict [syncByte, high, low, extra, code, received]
        (.error (.headerChecksum (checksum [high, low, extra, code]) received))
  | frame {p : Packet} (h : p.Built) : Verdict p.encode (.ok p)
  | kind {high low extra code received : UInt8} {rest : Bytes}
      (hcomplete : Complete (syncByte :: high :: low :: extra :: code :: received :: rest))
      (hheader : checksum [high, low, extra, code] = received)
      (hcode : PacketKind.ofCode? code = none) :
      Verdict (syncByte :: high :: low :: extra :: code :: received :: rest)
        (.error (.unknownKind code))
  | payload {p : Packet} (hfits : p.Fits) (hheader : p.headerChecksum = p.headerCheck)
      (h : p.payloadChecksum ≠ p.payloadCheck) :
      Verdict p.encode (.error (.payloadChecksum p.payloadChecksum p.payloadCheck))

theorem verdict_of_complete {high low extra code received : UInt8} {rest : Bytes}
    (hcomplete : Complete (syncByte :: high :: low :: extra :: code :: received :: rest))
    (hheader : checksum [high, low, extra, code] = received) :
    Verdict (syncByte :: high :: low :: extra :: code :: received :: rest)
      (decodeValid (syncByte :: high :: low :: extra :: code :: received :: rest)) := by
  cases hvalid : decodeValid (syncByte :: high :: low :: extra :: code :: received :: rest) with
  | ok p =>
      obtain ⟨hbuilt, rest, hbytes⟩ := Packet.built_of_decodeValid hvalid
      have hdecode := Packet.decode_encode_append hbuilt.fits rest
      rw [← hbytes] at hdecode
      rw [(Packet.eq_encode_of_complete hcomplete hdecode).2]
      exact .frame hbuilt
  | error cause =>
      rcases Packet.decodeValid_eq_error_iff.mp hvalid with hdecode | ⟨p, hdecode, hinvalid⟩
      · rcases Packet.decode_of_enough rfl hcomplete (Nat.le_refl _) with
          ⟨p, hok⟩ | ⟨found, hfound, hcode, hkind⟩
        · cases hok.symm.trans hdecode
        · obtain rfl : code = found := Option.some.inj hfound
          cases hkind.symm.trans hdecode
          exact .kind hcomplete hheader hcode
      · obtain ⟨hfits, hbytes⟩ := Packet.eq_encode_of_complete hcomplete hdecode
        obtain ⟨hcomputed, hreceived⟩ := Packet.headerChecksum_of_encode hbytes.symm
        have hfine : p.headerChecksum = p.headerCheck :=
          hcomputed.trans (hheader.trans hreceived.symm)
        obtain ⟨hpayload, rfl⟩ := Packet.validate_eq_error_of_header hfine hinvalid
        rw [hbytes]
        exact .payload hfits hfine hpayload

theorem verdict_of_candidate {body : Bytes} {byte : UInt8} {length : Nat}
    (hopen : Scan.candidate? (syncByte :: body) = none)
    (h : Scan.candidate? (syncByte :: (body ++ [byte])) = some (report, length)) :
    Verdict (syncByte :: (body ++ [byte])) report := by
  -- with five bytes behind the sync byte the header is settled, with four the new byte settles it
  match body with
  | high :: low :: extra :: code :: received :: rest =>
      obtain ⟨announced, hannounced⟩ : ∃ announced,
          frameLength? (syncByte :: high :: low :: extra :: code :: received :: rest) =
            some announced := ⟨_, rfl⟩
      obtain ⟨hheader, hmissing⟩ := Scan.header_of_candidate_none hopen hannounced
      have hgrown : frameLength? (syncByte :: high :: low :: extra :: code :: received ::
          (rest ++ [byte])) = some announced := hannounced
      simp only [List.cons_append] at h ⊢
      rw [Scan.candidate?_header hgrown, if_neg (not_not_intro hheader)] at h
      split at h
      case isTrue => cases h
      case isFalse hthere =>
        have hlength : (syncByte :: high :: low :: extra :: code :: received ::
            (rest ++ [byte])).length = announced := by
          simp only [List.length_cons, List.length_append, List.length_nil] at hthere ⊢
          omega
        rw [← hlength, List.take_length] at h
        cases h
        exact verdict_of_complete (hgrown.trans (congrArg some hlength.symm)) hheader
  | [high, low, extra, code] =>
      simp only [List.cons_append, List.nil_append] at h ⊢
      rw [Scan.candidate?_header rfl] at h
      split at h
      case isTrue hwrong =>
        cases h
        exact .header hwrong
      case isFalse =>
        rw [if_pos (by simp only [overhead, List.length_nil]; omega)] at h
        cases h
  | [] | [_] | [_, _] | [_, _, _] => simp [Scan.candidate?] at h

theorem Waiting.verdict (h : a.Waiting) {byte : UInt8} {replay : Bytes}
    (hstep : a.step byte = .settled report replay) :
    Verdict (a.buffer.toList ++ [byte]) report := by
  obtain ⟨body, length, hbody, hverdict, -⟩ := h.verdict_of_settled hstep
  rw [hbody]
  exact verdict_of_candidate (hbody ▸ h.unsettled) hverdict

theorem Verdict.error_cases {cause : FramingError} (h : Verdict bytes (.error cause)) :
    (¬Complete bytes ∧ ∃ computed received,
      cause = .headerChecksum computed received ∧ computed ≠ received) ∨
    (Complete bytes ∧ ((∃ code, cause = .unknownKind code) ∨ ∃ computed received,
      cause = .payloadChecksum computed received ∧ computed ≠ received)) := by
  cases h with
  | @header high low extra code received hwrong =>
      refine .inl ⟨fun hcomplete => ?_, _, _, rfl, hwrong⟩
      have hlength : overhead + (256 * high.toNat + low.toNat) + extra.toNat = 6 :=
        Option.some.inj hcomplete
      simp only [overhead] at hlength
      omega
  | kind hcomplete => exact .inr ⟨hcomplete, .inl ⟨_, rfl⟩⟩
  | payload hfits _ hwrong =>
      exact .inr ⟨Packet.complete_encode hfits, .inr ⟨_, _, rfl, hwrong⟩⟩

/-! ## Runs -/

/-- Reading the bytes settles these candidates, each with what is told about it. -/
inductive Settles : Assembler → Bytes → List (Bytes × Report) → Assembler → Prop
  | done (a : Assembler) : Settles a [] [] a
  | more {a next last : Assembler} {byte : UInt8} {rest : Bytes} {found : List (Bytes × Report)}
      (hstep : a.step byte = .more next) (later : Settles next rest found last) :
      Settles a (byte :: rest) found last
  | settled {a last : Assembler} {byte : UInt8} {report : Report} {replay rest : Bytes}
      {found : List (Bytes × Report)} (hstep : a.step byte = .settled report replay)
      (later : Settles {} (replay ++ rest) found last) :
      Settles a (byte :: rest) ((a.buffer.toList ++ [byte], report) :: found) last

theorem exists_settles (a : Assembler) (pending : Bytes) (reports : Array Report) :
    ∃ found, Settles a pending found (a.feed pending reports).1 ∧
      (a.feed pending reports).2.toList = reports.toList ++ found.map Prod.snd := by
  fun_induction feed a pending reports with
  | case1 a reports => exact ⟨[], .done a, by simp⟩
  | case2 a reports byte rest next hstep ih =>
      obtain ⟨found, hsettles, hreports⟩ := ih
      exact ⟨found, .more hstep hsettles, hreports⟩
  | case3 a reports byte rest report replay hstep ih =>
      obtain ⟨found, hsettles, hreports⟩ := ih
      exact ⟨_, .settled hstep hsettles, by simp [hreports]⟩

theorem Settles.verdicts {found : List (Bytes × Report)} (h : Settles a pending found last)
    (hwaiting : a.Waiting) : last.Waiting ∧ ∀ f ∈ found, Verdict f.1 f.2 := by
  induction h with
  | done => exact ⟨hwaiting, nofun⟩
  | more hstep _ ih => exact ih (hwaiting.of_step_more hstep).1
  | settled hstep _ ih =>
      obtain ⟨hlast, hfound⟩ := ih waiting_empty
      exact ⟨hlast, List.forall_mem_cons.mpr ⟨hwaiting.verdict hstep, hfound⟩⟩

inductive Call where
  | push (bytes : Bytes)
  | clear
  deriving DecidableEq, Repr

def perform (a : Assembler) : List Call → Assembler × List Report
  | [] => (a, [])
  | .push bytes :: rest =>
      let (next, reports) := a.push bytes
      let (last, later) := next.perform rest
      (last, reports ++ later)
  | .clear :: rest => a.clear.perform rest

/-- The calls settle these candidates; one in progress is forgotten when the assembler is cleared. -/
inductive Performs : Assembler → List Call → List (Bytes × Report) → Assembler → Prop
  | done (a : Assembler) : Performs a [] [] a
  | push {a next last : Assembler} {bytes : Bytes} {calls : List Call}
      {first later : List (Bytes × Report)} (hpush : Settles a bytes first next)
      (hlater : Performs next calls later last) :
      Performs a (.push bytes :: calls) (first ++ later) last
  | clear {a last : Assembler} {calls : List Call} {later : List (Bytes × Report)}
      (hlater : Performs {} calls later last) : Performs a (.clear :: calls) later last

theorem exists_performs (a : Assembler) (calls : List Call) :
    ∃ found, Performs a calls found (a.perform calls).1 ∧
      (a.perform calls).2 = found.map Prod.snd := by
  induction calls generalizing a with
  | nil => exact ⟨[], .done a, rfl⟩
  | cons call calls ih =>
      cases call with
      | push bytes =>
          obtain ⟨first, hpush, hfirst⟩ := exists_settles a bytes #[]
          obtain ⟨later, hlater, hreports⟩ := ih (a.push bytes).1
          refine ⟨first ++ later, .push hpush hlater, ?_⟩
          rw [List.map_append, ← hreports]
          exact congrArg (· ++ _) (by simpa using hfirst)
      | clear =>
          obtain ⟨later, hlater, hreports⟩ := ih {}
          exact ⟨later, .clear hlater, hreports⟩

theorem Performs.verdicts {calls : List Call} {found : List (Bytes × Report)}
    (h : Performs a calls found last) (hwaiting : a.Waiting) :
    last.Waiting ∧ ∀ f ∈ found, Verdict f.1 f.2 := by
  induction h with
  | done => exact ⟨hwaiting, nofun⟩
  | push hpush _ ih =>
      obtain ⟨hnext, hfirst⟩ := hpush.verdicts hwaiting
      obtain ⟨hlast, hlater⟩ := ih hnext
      exact ⟨hlast, List.forall_mem_append.mpr ⟨hfirst, hlater⟩⟩
  | clear _ ih => exact ih waiting_empty

/--
After any calls the assembler is consistent.  Its reports are those of the candidates that it has
settled, in order: each is a verdict on the bytes of its candidate.  An error tells of a wrong header
checksum, and then the candidate is not complete, or of a complete frame that it is of an unknown
kind or has a wrong payload checksum.
-/
theorem kept_and_reported (calls : List Call) :
    (perform {} calls).1.Consistent ∧
      ∃ found, Performs {} calls found (perform {} calls).1 ∧
        (perform {} calls).2 = found.map Prod.snd ∧
        (∀ f ∈ found, Verdict f.1 f.2) ∧
        ∀ bytes cause, (bytes, .error cause) ∈ found →
          (¬Complete bytes ∧ ∃ computed received,
            cause = .headerChecksum computed received ∧ computed ≠ received) ∨
          (Complete bytes ∧ ((∃ code, cause = .unknownKind code) ∨ ∃ computed received,
            cause = .payloadChecksum computed received ∧ computed ≠ received)) := by
  obtain ⟨found, hperforms, hreports⟩ := exists_performs {} calls
  obtain ⟨hwaiting, hverdicts⟩ := hperforms.verdicts waiting_empty
  exact ⟨hwaiting.consistent, found, hperforms, hreports, hverdicts,
    fun bytes cause hfound => (hverdicts _ hfound).error_cases⟩

end Assembler

end Esp3Host
