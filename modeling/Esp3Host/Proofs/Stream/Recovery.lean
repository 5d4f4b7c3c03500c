import Esp3Host.Proofs.Packet.Lengths
import Esp3Host.Proofs.Stream.Pieces

/-!
# Getting back into step

A stream can make the assembler wait for a frame that never was one, and a rejected candidate can
uncover the next.  What is waited for still begins with a sync byte and is shorter than the longest
frame that a header can announce.  So the buffer is bounded at any time, and after as many bytes
without a sync byte it is empty: a sync byte that is still waited for would have to stand in front
of them all.
-/

namespace Esp3Host

open Packet (syncByte)

/-- The longest candidate that can be waiting for its end, one byte short of the longest frame. -/
def Assembler.maxBuffered : Nat := 65796

namespace Scan

theorem length_of_candidate_none {stream : Bytes} (h : candidate? stream = none) :
    stream.length ≤ Assembler.maxBuffered := by
  cases hlength : Packet.frameLength? stream with
  | none =>
      have hshort := Packet.frameLength?_eq_none_iff.mp hlength
      simp only [Assembler.maxBuffered]
      omega
  | some length =>
      have hmissing := lt_of_candidate_none h hlength
      have hlongest := (Packet.frameLength?_bounds hlength).2
      simp only [Packet.overhead, Packet.maxDataLength, Packet.maxOptionalLength] at hlongest
      simp only [Assembler.maxBuffered]
      omega

end Scan

namespace Assembler

/--
The states of an assembler between two bytes, whatever bytes came before.  These are also the states
in the middle of a call and those between rejected bytes that are read again: a candidate that is
settled leaves a fresh assembler.
-/
inductive Reached : Assembler → Prop
  | fresh : Reached {}
  | step {a next : Assembler} (h : Reached a) (byte : UInt8) (hstep : a.step byte = .more next) :
      Reached next

variable {a : Assembler}

theorem Reached.waiting (h : a.Reached) : a.Waiting := by
  induction h with
  | fresh => exact waiting_empty
  | step _ byte hstep ih => exact (ih.of_step_more hstep).1

theorem Reached.feed (h : a.Reached) (pending : Bytes) (reports : Array Report) :
    (a.feed pending reports).1.Reached := by
  fun_induction Assembler.feed a pending reports with
  | case1 a reports => exact h
  | case2 a reports byte rest next hstep ih => exact ih (h.step byte hstep)
  | case3 a reports byte rest report replay hstep ih => exact ih .fresh

theorem Reached.push (h : a.Reached) (bytes : Bytes) : (a.push bytes).1.Reached :=
  h.feed bytes #[]

theorem Waiting.buffered_le (h : a.Waiting) : a.buffered ≤ maxBuffered := by
  rw [buffered, ← Array.length_toList]
  exact Scan.length_of_candidate_none h.unsettled

theorem Waiting.push_of_no_sync (h : a.Waiting) {bytes : Bytes} (hquiet : syncByte ∉ bytes)
    (hlong : maxBuffered ≤ bytes.length) : (a.push bytes).1 = {} := by
  obtain ⟨hwaiting, hbuffer, -⟩ := push_eq_scan h bytes
  rcases hwaiting.begins with hempty | ⟨body, hbody⟩
  · exact hwaiting.eq_empty hempty
  · have hleft : (a.push bytes).1.buffer.toList <:+ a.buffer.toList ++ bytes := by
      rw [hbuffer]
      exact Scan.scan_left_suffix _
    have hle : (a.push bytes).1.buffer.toList.length ≤ bytes.length := by
      rw [Array.length_toList]
      exact Nat.le_trans hwaiting.buffered_le hlong
    -- the candidate is no longer than these bytes, so its sync byte is one of them
    have hamong := List.suffix_of_suffix_length_le hleft (List.suffix_append _ _) hle
    rw [hbody] at hamong
    exact absurd (hamong.subset List.mem_cons_self) hquiet

/--
Whatever an assembler has been fed, its buffer is bounded, and calls lead to such states again.  As
many bytes as the buffer can hold, in any chunks and without a sync byte among them, leave it empty,
and then the next frame is reported with nothing else.
-/
theorem recovers (h : a.Reached) :
    a.buffered ≤ 65796 ∧
      (a.clear.Reached ∧ ∀ bytes, (a.push bytes).1.Reached) ∧
      ∀ (quiet : List Bytes) (p : Packet) (chunks : List Bytes),
        syncByte ∉ quiet.flatten → 65796 ≤ quiet.flatten.length →
        p.Built → chunks.flatten = p.encode →
        (a.pushAll quiet).1 = {} ∧ (a.pushAll quiet).1.pushAll chunks = ({}, [.ok p]) := by
  refine ⟨h.waiting.buffered_le, ⟨.fresh, h.push⟩, ?_⟩
  intro quiet p chunks hquiet hlong hp hframe
  have hempty : (a.pushAll quiet).1 = {} := by
    rw [pushAll_eq_push]
    exact h.waiting.push_of_no_sync hquiet hlong
  refine ⟨hempty, ?_⟩
  rw [hempty]
  exact pushAll_frames (List.forall_mem_singleton.mpr hp) (by simpa using hframe)

theorem recovers_longest_announced :
    let a := (push {} [0x55, 0xFF, 0xFF, 0xFF, 0x01, 0x2A]).1
    let quiet := [[], List.replicate 65795 0x00, [0xFF]]
    let p := Packet.sealed .commonCommand [0x03] []
    a.buffer.toList = [0x55, 0xFF, 0xFF, 0xFF, 0x01, 0x2A] ∧ a.expected = some 65797 ∧
      (a.pushAll quiet).1 = {} ∧
      (a.pushAll quiet).1.pushAll [p.encode.take 3, p.encode.drop 3] = ({}, [.ok p]) := by
  intro a quiet p
  have hreached : a.Reached := .push .fresh _
  have hpending : a.buffer.toList = [0x55, 0xFF, 0xFF, 0xFF, 0x01, 0x2A] := by
    rw [(push_eq_scan waiting_empty _).2.1]
    exact congrArg Prod.snd (Scan.scan_of_candidate_none (by decide +kernel))
  have hexpected : a.expected = some 65797 := by
    rw [hreached.waiting.expected, hpending]
    decide +kernel
  have hquiet : syncByte ∉ quiet.flatten := by
    simp [quiet, syncByte, -List.reduceReplicate]
  have hlong : 65796 ≤ quiet.flatten.length := by
    simp [quiet, -List.reduceReplicate]
  obtain ⟨-, -, hrecovers⟩ := recovers hreached
  exact ⟨hpending, hexpected, hrecovers quiet p [p.encode.take 3, p.encode.drop 3] hquiet hlong
    (Packet.built_sealed (by decide) (by decide)) rfl⟩

end Assembler

end Esp3Host
