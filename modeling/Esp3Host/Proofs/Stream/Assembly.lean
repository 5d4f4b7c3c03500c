import Esp3Host.Assembler
import Esp3Host.Proofs.Stream.Scan

/-!
# The assembler follows the scan

Between two bytes the assembler waits: its buffer is empty or holds a candidate whose verdict is not
out yet, and the expected length is the one that the header tells.  A byte settles the candidate
exactly when the scan finds a verdict for the buffer with that byte.  Reading bytes therefore gives
the reports of a scan over the buffer and the bytes together, and keeps what that scan leaves over.
-/

namespace Esp3Host.Assembler

open Packet (syncByte overhead headerLength frameLength? decodeValid)
open Scan (candidate? scan)

structure Waiting (a : Assembler) : Prop where
  begins : a.buffer.toList = [] ∨ ∃ body, a.buffer.toList = syncByte :: body
  unsettled : candidate? a.buffer.toList = none
  expected : a.expected = frameLength? a.buffer.toList

theorem waiting_empty : Waiting {} :=
  ⟨.inl rfl, rfl, rfl⟩

theorem Waiting.eq_empty {a : Assembler} (h : a.Waiting) (hbuffer : a.buffer.toList = []) :
    a = {} := by
  have hexpected := h.expected
  obtain ⟨⟨buffer⟩, expected⟩ := a
  simp only at hbuffer hexpected
  subst hbuffer
  subst hexpected
  rfl

/-! ## One byte -/

/-- What a byte does to a candidate, told by the verdict on the candidate with that byte. -/
def stepByVerdict (a : Assembler) (body : Bytes) (byte : UInt8) : Option (Report × Nat) → Step
  | none =>
      .more ⟨a.buffer.push byte, frameLength? (syncByte :: (body ++ [byte]))⟩
  | some (.error cause, _) => .settled (.error cause) (body ++ [byte])
  | some (.ok p, _) => .settled (.ok p) []

private theorem step_in_header {body : Bytes} (hshort : body.length < headerLength - 1)
    (byte : UInt8) :
    step ⟨⟨syncByte :: body⟩, frameLength? (syncByte :: body)⟩ byte =
      stepByVerdict ⟨⟨syncByte :: body⟩, frameLength? (syncByte :: body)⟩ body byte
        (candidate? (syncByte :: (body ++ [byte]))) := by
  match body with
  | [] => simp [step, stepByVerdict, candidate?, frameLength?, headerLength]
  | [high] => simp [step, stepByVerdict, candidate?, frameLength?, headerLength]
  | [high, low] =>
      have hlong : 7 + (256 * high.toNat + low.toNat) + byte.toNat ≠ 4 := by omega
      simp [step, stepByVerdict, candidate?, frameLength?, headerLength, overhead, hlong]
  | [high, low, extra] =>
      have hlong : 7 + (256 * high.toNat + low.toNat) + extra.toNat ≠ 5 := by omega
      simp [step, stepByVerdict, candidate?, frameLength?, headerLength, overhead, hlong]
  | [high, low, extra, code] =>
      have hlong : 7 + (256 * high.toNat + low.toNat) + extra.toNat ≠ 6 := by omega
      have hmissing : 6 < 7 + (256 * high.toNat + low.toNat) + extra.toNat := by omega
      by_cases hcheck : checksum [high, low, extra, code] = byte <;>
        simp [step, stepByVerdict, candidate?, frameLength?, headerLength, overhead, hlong,
          hmissing, hcheck]
  | _ :: _ :: _ :: _ :: _ :: rest =>
      simp only [headerLength, List.length_cons] at hshort
      omega

private theorem step_in_body {high low extra code received : UInt8} {rest : Bytes}
    (hopen : candidate? (syncByte :: high :: low :: extra :: code :: received :: rest) = none)
    (byte : UInt8) :
    let body := high :: low :: extra :: code :: received :: rest
    step ⟨⟨syncByte :: body⟩, frameLength? (syncByte :: body)⟩ byte =
      stepByVerdict ⟨⟨syncByte :: body⟩, frameLength? (syncByte :: body)⟩ body byte
        (candidate? (syncByte :: (body ++ [byte]))) := by
  obtain ⟨length, hlength⟩ : ∃ length,
      frameLength? (syncByte :: high :: low :: extra :: code :: received :: rest) = some length :=
    ⟨_, rfl⟩
  have hgrown : frameLength? (syncByte :: high :: low :: extra :: code :: received ::
      (rest ++ [byte])) = some length := hlength
  have hsize : (rest ++ [byte]).length = rest.length + 1 := List.length_append
  simp only [List.cons_append]
  obtain ⟨hcheck, hmissing⟩ := Scan.header_of_candidate_none hopen hlength
  rw [Scan.candidate?_header hgrown, if_neg (not_not_intro hcheck)]
  by_cases hlast : length = rest.length + 7
  · rw [if_neg (by omega), List.take_of_length_le (by simp [hlast])]
    cases hverdict : decodeValid (syncByte :: high :: low :: extra :: code :: received ::
      (rest ++ [byte])) <;>
      simp [step, stepByVerdict, hlength, hlast, headerLength, hverdict]
  · have hother : ¬ length = rest.length + 6 + 1 := by omega
    rw [if_pos (by omega)]
    simp [step, stepByVerdict, hlength, hgrown, headerLength, hother]

theorem step_eq_stepByVerdict {a : Assembler} (h : a.Waiting) {body : Bytes}
    (hbuffer : a.buffer.toList = syncByte :: body) (byte : UInt8) :
    a.step byte = a.stepByVerdict body byte (candidate? (syncByte :: (body ++ [byte]))) := by
  have hexpected := h.expected
  have hopen := h.unsettled
  obtain ⟨⟨buffer⟩, expected⟩ := a
  simp only at hbuffer hexpected hopen
  subst hbuffer
  subst hexpected
  match body with
  | high :: low :: extra :: code :: received :: rest => exact step_in_body hopen byte
  | [] | [_] | [_, _] | [_, _, _] | [_, _, _, _] =>
      exact step_in_header (by simp [headerLength]) byte

theorem Waiting.of_step_more {a next : Assembler} {byte : UInt8} (h : a.Waiting)
    (hstep : a.step byte = .more next) :
    next.Waiting ∧
      ∀ rest, scan (next.buffer.toList ++ rest) = scan (a.buffer.toList ++ byte :: rest) := by
  rcases h.begins with hempty | ⟨body, hbody⟩
  · cases h.eq_empty hempty
    by_cases hsync : byte = syncByte
    · subst hsync
      cases hstep
      exact ⟨⟨.inr ⟨[], rfl⟩, rfl, rfl⟩, fun rest => rfl⟩
    · simp only [step, Array.isEmpty_empty, if_true, if_neg hsync, Step.more.injEq] at hstep
      subst hstep
      exact ⟨waiting_empty, fun rest => (Scan.scan_cons_of_ne hsync rest).symm⟩
  · rw [step_eq_stepByVerdict h hbody] at hstep
    cases hverdict : candidate? (syncByte :: (body ++ [byte])) with
    | some verdict =>
        obtain ⟨cause | p, length⟩ := verdict <;> simp [hverdict, stepByVerdict] at hstep
    | none =>
        rw [hverdict] at hstep
        cases hstep
        have hgrown : (a.buffer.push byte).toList = syncByte :: (body ++ [byte]) := by
          simp [hbody]
        refine ⟨⟨.inr ⟨_, hgrown⟩, hgrown ▸ hverdict, ?_⟩, fun rest => ?_⟩
        · rw [hgrown]
        · simp [hbody]

theorem Waiting.length_of_settled_ok {a : Assembler} {body : Bytes} {byte : UInt8} {p : Packet}
    {length : Nat} (h : a.Waiting) (hbuffer : a.buffer.toList = syncByte :: body)
    (hverdict : candidate? (syncByte :: (body ++ [byte])) = some (.ok p, length)) :
    length = body.length + 2 := by
  obtain ⟨hle, -, hframe⟩ := Scan.candidate?_take_of_ok hverdict
  simp only [List.length_cons, List.length_append, List.length_nil] at hle
  rcases Nat.lt_or_ge length (body.length + 2) with hlt | hge
  case inr => omega
  -- a shorter frame would have been settled by an earlier byte
  have hshort : length ≤ (syncByte :: body).length := by
    simp only [List.length_cons]
    omega
  have htake : (syncByte :: (body ++ [byte])).take length = (syncByte :: body).take length :=
    List.take_append_of_le_length hshort
  have hearlier := Scan.candidate?_append (htake ▸ hframe) ((syncByte :: body).drop length)
  rw [List.take_append_drop, ← hbuffer, h.unsettled] at hearlier
  cases hearlier

theorem Waiting.verdict_of_settled {a : Assembler} {byte : UInt8} {report : Report} {replay : Bytes}
    (h : a.Waiting) (hstep : a.step byte = .settled report replay) :
    ∃ body length, a.buffer.toList = syncByte :: body ∧
      candidate? (syncByte :: (body ++ [byte])) = some (report, length) ∧
      ((∃ cause, report = .error cause ∧ replay = body ++ [byte]) ∨
        ∃ p, report = .ok p ∧ replay = [] ∧ length = body.length + 2) := by
  rcases h.begins with hempty | ⟨body, hbody⟩
  · cases h.eq_empty hempty
    simp [step] at hstep
  · rw [step_eq_stepByVerdict h hbody] at hstep
    cases hverdict : candidate? (syncByte :: (body ++ [byte])) with
    | none => simp [hverdict, stepByVerdict] at hstep
    | some verdict =>
        rw [hverdict] at hstep
        obtain ⟨cause | p, length⟩ := verdict
        · cases hstep
          exact ⟨body, length, hbody, hverdict, .inl ⟨cause, rfl, rfl⟩⟩
        · cases hstep
          exact ⟨body, length, hbody, hverdict,
            .inr ⟨p, rfl, rfl, h.length_of_settled_ok hbody hverdict⟩⟩

theorem Waiting.of_step_settled {a : Assembler} {byte : UInt8} {report : Report} {replay : Bytes}
    (h : a.Waiting) (hstep : a.step byte = .settled report replay) (rest : Bytes) :
    scan (a.buffer.toList ++ byte :: rest) =
      (report :: (scan (replay ++ rest)).1, (scan (replay ++ rest)).2) := by
  obtain ⟨body, length, hbody, hverdict, hends⟩ := h.verdict_of_settled hstep
  have hstream : a.buffer.toList ++ byte :: rest = syncByte :: (body ++ [byte] ++ rest) := by
    simp [hbody]
  have hlater := Scan.candidate?_append hverdict rest
  rw [hstream]
  rcases hends with ⟨cause, rfl, rfl⟩ | ⟨p, rfl, rfl, rfl⟩
  · exact Scan.scan_of_candidate_error hlater
  · have hscan := Scan.scan_of_candidate_ok hlater
    have hdrop : (body ++ [byte] ++ rest).drop (body.length + 2 - 1) = rest :=
      List.drop_left' (by simp)
    rwa [List.append_eq, hdrop] at hscan

/-! ## Many bytes -/

theorem Waiting.scan_buffer {a : Assembler} (h : a.Waiting) :
    scan a.buffer.toList = ([], a.buffer.toList) := by
  rcases h.begins with hempty | ⟨body, hbody⟩
  · rw [hempty, Scan.scan_nil]
  · rw [hbody]
    exact Scan.scan_of_candidate_none (hbody ▸ h.unsettled)

theorem feed_eq_scan {a : Assembler} (h : a.Waiting) (pending : Bytes) (reports : Array Report) :
    (a.feed pending reports).1.Waiting ∧
      (a.feed pending reports).1.buffer.toList = (scan (a.buffer.toList ++ pending)).2 ∧
      (a.feed pending reports).2.toList =
        reports.toList ++ (scan (a.buffer.toList ++ pending)).1 := by
  -- By induction on the reading itself, in which a rejected candidate is read again.
  fun_induction feed a pending reports with
  | case1 a reports => simp [h, h.scan_buffer]
  | case2 a reports byte rest next hstep ih =>
      obtain ⟨hnext, hscan⟩ := h.of_step_more hstep
      simpa only [hscan] using ih hnext
  | case3 a reports byte rest report replay hstep ih =>
      simpa [h.of_step_settled hstep rest] using ih waiting_empty

theorem push_eq_scan {a : Assembler} (h : a.Waiting) (bytes : Bytes) :
    (a.push bytes).1.Waiting ∧
      (a.push bytes).1.buffer.toList = (scan (a.buffer.toList ++ bytes)).2 ∧
      (a.push bytes).2 = (scan (a.buffer.toList ++ bytes)).1 := by
  simpa [push] using feed_eq_scan h bytes #[]

/--
A fresh assembler reports what the scan of the stream reports and buffers what it leaves over.  It
expects a length exactly when four bytes are buffered, and then the one that they announce.
-/
theorem push_fresh_refines_scan (stream : Bytes) :
    (push {} stream).2 = (scan stream).1 ∧
      (push {} stream).1.buffer.toList = (scan stream).2 ∧
      (scan stream).2 <:+ stream ∧
      ∀ length, (push {} stream).1.expected = some length ↔
        ∃ sync high low extra rest,
          (push {} stream).1.buffer.toList = sync :: high :: low :: extra :: rest ∧
            length = 7 + (256 * high.toNat + low.toNat) + extra.toNat := by
  obtain ⟨hwaiting, hbuffer, hreports⟩ := push_eq_scan waiting_empty stream
  refine ⟨hreports, hbuffer, Scan.scan_left_suffix stream, fun length => ?_⟩
  rw [hwaiting.expected, Packet.frameLength?_eq_some_iff]

end Esp3Host.Assembler
