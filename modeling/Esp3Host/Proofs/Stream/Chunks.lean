import Esp3Host.Assembler

/-!
# Streams in chunks

The assembler keeps nothing of a call but its buffer and the expected length, and bytes that are
read again stand in front of the unread ones.  Where a stream is cut into calls is therefore of no
concern: `pushAll_eq_push` holds from every state, also in the middle of a candidate.
-/

namespace Esp3Host.Assembler

def pushAll (a : Assembler) : List Bytes → Assembler × List Report
  | [] => (a, [])
  | chunk :: rest =>
      let (next, reports) := a.push chunk
      let (last, later) := next.pushAll rest
      (last, reports ++ later)

theorem feed_nil (a : Assembler) (reports : Array Report) : a.feed [] reports = (a, reports) := by
  rw [feed]

theorem feed_of_more {a next : Assembler} {byte : UInt8} (h : a.step byte = .more next)
    (rest : Bytes) (reports : Array Report) :
    a.feed (byte :: rest) reports = next.feed rest reports := by
  rw [feed]
  split
  case h_1 other hother =>
    cases h.symm.trans hother
    rfl
  case h_2 report replay hother => cases h.symm.trans hother

theorem feed_of_settled {a : Assembler} {byte : UInt8} {report : Report} {replay : Bytes}
    (h : a.step byte = .settled report replay) (rest : Bytes) (reports : Array Report) :
    a.feed (byte :: rest) reports = feed {} (replay ++ rest) (reports.push report) := by
  rw [feed]
  split
  case h_1 other hother => cases h.symm.trans hother
  case h_2 settled bytes hother =>
    cases h.symm.trans hother
    rfl

theorem feed_earlier (earlier : Array Report) (a : Assembler) (pending : Bytes)
    (reports : Array Report) :
    a.feed pending (earlier ++ reports) =
      ((a.feed pending reports).1, earlier ++ (a.feed pending reports).2) := by
  fun_induction feed a pending reports with
  | case1 a reports => exact feed_nil a (earlier ++ reports)
  | case2 a reports byte rest next hstep ih =>
      rw [feed_of_more hstep]
      exact ih
  | case3 a reports byte rest report replay hstep ih =>
      rw [feed_of_settled hstep, Array.push_append]
      exact ih

theorem feed_append (a : Assembler) (first second : Bytes) (reports : Array Report) :
    a.feed (first ++ second) reports =
      (a.feed first reports).1.feed second (a.feed first reports).2 := by
  -- the induction is on the reading of the first chunk, rejected candidates included
  fun_induction feed a first reports with
  | case1 a reports => rfl
  | case2 a reports byte rest next hstep ih =>
      rw [List.cons_append, feed_of_more hstep]
      exact ih
  | case3 a reports byte rest report replay hstep ih =>
      rw [List.cons_append, feed_of_settled hstep, ← List.append_assoc]
      exact ih

theorem push_nil (a : Assembler) : a.push [] = (a, []) := by
  simp [push, feed_nil]

theorem push_append (a : Assembler) (first second : Bytes) :
    a.push (first ++ second) =
      (((a.push first).1.push second).1, (a.push first).2 ++ ((a.push first).1.push second).2) := by
  have hsecond := feed_earlier (a.feed first #[]).2 (a.feed first #[]).1 second #[]
  rw [Array.append_empty] at hsecond
  simp only [push]
  rw [feed_append, hsecond, Array.toList_append]

theorem pushAll_eq_push (a : Assembler) (chunks : List Bytes) :
    a.pushAll chunks = a.push chunks.flatten := by
  induction chunks generalizing a with
  | nil => exact (push_nil a).symm
  | cons chunk rest ih =>
      rw [pushAll, List.flatten_cons, push_append]
      simp only
      rw [ih]

/--
Two calls and one call with both chunks give the same reports and leave the same state, and so do
any two ways of cutting a stream, empty chunks and single bytes included.
-/
theorem chunks_indistinguishable (a : Assembler) :
    (∀ first second : Bytes,
      a.push (first ++ second) =
        (((a.push first).1.push second).1,
          (a.push first).2 ++ ((a.push first).1.push second).2)) ∧
      ∀ chunks others : List Bytes, chunks.flatten = others.flatten →
        a.pushAll chunks = a.pushAll others := by
  refine ⟨push_append a, ?_⟩
  intro chunks others hstream
  rw [pushAll_eq_push, pushAll_eq_push, hstream]

end Esp3Host.Assembler
