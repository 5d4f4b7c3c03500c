import Mathlib.Algebra.GroupWithZero.Nat
import Esp3Host.Proofs.Link.Intake
import Esp3Host.Proofs.Stream.Recovery

/-!
# The reading ends and loses no byte

A push reads one byte a round.  A rejected candidate puts all its bytes but the first back in front
of the unread ones, so that the pending bytes can become more again and again; but every rejection
uses up one sync byte, and no candidate holds more than `maxBuffered` bytes that could come back.
What the rounds settle are the pieces of the stream, one behind the other.
-/

namespace Esp3Host

open Packet (syncByte)

namespace Scan

/-! ## Places of pieces -/

def placed (start : Nat) : List Piece → List (Nat × Piece)
  | [] => []
  | piece :: rest => (start, piece) :: placed (start + piece.bytes.length) rest

theorem map_snd_placed (start : Nat) (found : List Piece) :
    (placed start found).map Prod.snd = found := by
  induction found generalizing start with
  | nil => rfl
  | cons piece rest ih => simp [placed, ih]

theorem le_of_mem_placed {start : Nat} {found : List Piece} {f : Nat × Piece}
    (h : f ∈ placed start found) : start ≤ f.1 := by
  induction found generalizing start with
  | nil => simp [placed] at h
  | cons piece rest ih =>
      rcases List.mem_cons.mp h with rfl | hlater
      · exact Nat.le_refl _
      · exact Nat.le_trans (Nat.le_add_right _ _) (ih hlater)

theorem pairwise_placed (start : Nat) (found : List Piece) :
    (placed start found).Pairwise fun f g => f.1 + f.2.bytes.length ≤ g.1 := by
  induction found generalizing start with
  | nil => exact .nil
  | cons piece rest ih => exact .cons (fun g hg => le_of_mem_placed hg) (ih _)

/-- Why bytes are cut into this piece and no other. -/
def Piece.Told (here : Bytes) : Piece → Prop
  | noise byte => byte ≠ syncByte
  | rejected cause => ∃ length, candidate? here = some (.error cause, length)
  | frame p => candidate? here = some (.ok p, p.wireLength)

def StandsIn (stream : Bytes) (f : Nat × Piece) : Prop :=
  f.2.bytes <+: stream.drop f.1 ∧ f.2.Told (stream.drop f.1)

theorem standsIn_cons (piece : Piece) {found : List Piece} {rest : Bytes}
    (htold : piece.Told (piece.bytes ++ rest))
    (hlater : ∀ before : Bytes, ∀ f ∈ placed before.length found, StandsIn (before ++ rest) f)
    (before : Bytes) :
    ∀ f ∈ placed before.length (piece :: found), StandsIn (before ++ (piece.bytes ++ rest)) f := by
  intro f hf
  rcases List.mem_cons.mp hf with rfl | hf
  · refine ⟨?_, ?_⟩
    · simp
    · simpa using htold
  · rw [← List.length_append] at hf
    rw [← List.append_assoc]
    exact hlater (before ++ piece.bytes) f hf

theorem standsIn_pieces (stream before : Bytes) :
    ∀ f ∈ placed before.length (pieces stream).1, StandsIn (before ++ stream) f := by
  fun_induction pieces stream generalizing before with
  | case1 => exact fun f hf => absurd hf List.not_mem_nil
  | case2 byte rest hbyte found left hfound ih =>
      rw [hfound] at ih
      exact standsIn_cons (.noise byte) hbyte ih before
  | case3 byte rest => exact fun f hf => absurd hf List.not_mem_nil
  | case4 byte rest hbyte cause length hcandidate found left hfound ih =>
      rw [hfound] at ih
      cases Decidable.not_not.mp hbyte
      exact standsIn_cons (.rejected cause) ⟨length, hcandidate⟩ ih before
  | case5 byte rest hbyte p length hcandidate found left hfound ih =>
      rw [hfound] at ih
      obtain ⟨-, rfl, -⟩ := encode_of_candidate_ok hcandidate
      have hstream := cons_eq_encode_append hcandidate
      rw [hstream] at hcandidate ⊢
      exact standsIn_cons (.frame p) hcandidate ih before

/-! ## What the pieces cost -/

def Piece.ofReport : Report → Piece
  | .ok p => frame p
  | .error cause => rejected cause

@[simp] theorem Piece.report?_ofReport (report : Report) :
    (ofReport report).report? = some report := by
  cases report <;> rfl

def dropped (found : List Piece) : Bytes :=
  found.filterMap fun
    | .noise byte => some byte
    | _ => none

theorem extent_eq (found : List Piece) :
    extent found = ((accepted (found.filterMap Piece.report?)).map Packet.wireLength).sum +
      (found.filterMap Piece.report?).countP Report.isFault + (dropped found).length := by
  induction found with
  | nil => rfl
  | cons piece rest ih =>
      simp only [dropped] at ih
      rw [extent_cons, ih]
      cases piece <;>
        simp [dropped, Piece.report?, Piece.bytes, Report.isFault, List.filterMap_cons,
          List.countP_cons] <;> omega

theorem mem_dropped {found : List Piece} {byte : UInt8} :
    byte ∈ dropped found ↔ .noise byte ∈ found := by
  rw [dropped, List.mem_filterMap]
  constructor
  · rintro ⟨piece, hpiece, hbyte⟩
    cases piece <;> simp_all
  · exact fun h => ⟨_, h, rfl⟩

theorem syncByte_not_mem_dropped (stream : Bytes) : syncByte ∉ dropped (pieces stream).1 := by
  intro hmem
  rw [mem_dropped, ← map_snd_placed 0 (pieces stream).1] at hmem
  obtain ⟨⟨place, piece⟩, hplaced, hnoise⟩ := List.mem_map.mp hmem
  cases hnoise
  exact (standsIn_pieces stream [] _ hplaced).2 rfl

theorem length_eq_left_add (stream : Bytes) :
    stream.length = (pieces stream).2.length + extent (pieces stream).1 := by
  have hcover := congrArg List.length (pieces_cover stream)
  rw [List.length_append, ← extent] at hcover
  omega

end Scan

namespace Assembler

open Scan (Piece pieces placed dropped candidate?)

/-! ## Rounds -/

structure Reading where
  settled : List Piece
  assembler : Assembler
  pending : Bytes

namespace Reading

def unsettled (r : Reading) : Bytes := r.assembler.buffer.toList ++ r.pending

/-- The next round, if there is a byte to read; one that leaves the buffer as it was is dropped. -/
def next? (r : Reading) : Option Reading :=
  match r.pending with
  | [] => none
  | byte :: rest =>
      match r.assembler.step byte with
      | .more next =>
          if next.buffer = r.assembler.buffer then some ⟨r.settled ++ [.noise byte], next, rest⟩
          else some ⟨r.settled, next, rest⟩
      | .settled report replay =>
          some ⟨r.settled ++ [Piece.ofReport report], {}, replay ++ rest⟩

inductive Ends : Nat → Reading → Reading → Prop
  | done {r : Reading} (h : r.pending = []) : Ends 0 r r
  | round {r next last : Reading} {rounds : Nat} (h : r.next? = some next)
      (later : Ends rounds next last) : Ends (rounds + 1) r last

end Reading

theorem ends_feed (a : Assembler) (pending : Bytes) (reports : Array Report)
    (settled : List Piece) (hreports : settled.filterMap Piece.report? = reports.toList) :
    ∃ rounds last, Reading.Ends rounds ⟨settled, a, pending⟩ last ∧
      last.assembler = (a.feed pending reports).1 ∧
      last.settled.filterMap Piece.report? = (a.feed pending reports).2.toList := by
  fun_induction feed a pending reports generalizing settled with
  | case1 a reports => exact ⟨0, _, .done rfl, rfl, hreports⟩
  | case2 a reports byte rest next hstep ih =>
      by_cases hsame : next.buffer = a.buffer
      · obtain ⟨rounds, last, hends, hlast⟩ := ih (settled ++ [.noise byte]) (by
          simp [hreports, Piece.report?])
        exact ⟨rounds + 1, last, .round (by simp [Reading.next?, hstep, hsame]) hends, hlast⟩
      · obtain ⟨rounds, last, hends, hlast⟩ := ih settled hreports
        exact ⟨rounds + 1, last, .round (by simp [Reading.next?, hstep, hsame]) hends, hlast⟩
  | case3 a reports byte rest report replay hstep ih =>
      obtain ⟨rounds, last, hends, hlast⟩ := ih (settled ++ [Piece.ofReport report]) (by
        simp [hreports])
      exact ⟨rounds + 1, last, .round (by simp [Reading.next?, hstep]) hends, hlast⟩

theorem step_more_cases {a next : Assembler} {byte : UInt8} (h : a.step byte = .more next) :
    next.buffer = a.buffer.push byte ∨ a.buffer = #[] ∧ byte ≠ syncByte ∧ next = a := by
  unfold step at h
  grind

theorem Waiting.pieces_buffer {a : Assembler} (h : a.Waiting) :
    pieces a.buffer.toList = ([], a.buffer.toList) := by
  rcases h.begins with hempty | ⟨body, hbody⟩
  · rw [hempty, pieces]
  · rw [hbody]
    exact Scan.pieces_of_candidate_none (hbody ▸ h.unsettled)

namespace Reading

/-- What a round adds to the settled pieces is cut off the front of what was unsettled. -/
structure Advances (r next : Reading) (found : List Piece) : Prop where
  settled : next.settled = r.settled ++ found
  waiting : next.assembler.Waiting
  pieces : pieces r.unsettled = (found ++ (pieces next.unsettled).1, (pieces next.unsettled).2)
  pending : next.pending.length + 1 ≤
    r.pending.length + maxBuffered * (found.filterMap Piece.report?).countP Report.isFault

theorem advances_more {a next : Assembler} {byte : UInt8} (h : a.Waiting)
    (hstep : a.step byte = .more next) (settled : List Piece) (rest : Bytes) :
    if next.buffer = a.buffer then
      Advances ⟨settled, a, byte :: rest⟩ ⟨settled ++ [.noise byte], next, rest⟩ [.noise byte]
    else Advances ⟨settled, a, byte :: rest⟩ ⟨settled, next, rest⟩ [] := by
  have hwaiting := (h.of_step_more hstep).1
  rcases step_more_cases hstep with hkept | ⟨hempty, hbyte, rfl⟩
  · have hgrown : next.buffer ≠ a.buffer := by
      intro hsame
      have hsize := congrArg Array.size (hkept.symm.trans hsame)
      simp at hsize
    rw [if_neg hgrown]
    exact ⟨by simp, hwaiting, by simp [unsettled, hkept], by simp⟩
  · rw [if_pos rfl]
    refine ⟨rfl, hwaiting, ?_, by simp⟩
    simp [unsettled, hempty, Scan.pieces_cons_of_ne hbyte]

theorem advances_settled {a : Assembler} {byte : UInt8} {report : Report} {replay : Bytes}
    (h : a.Waiting) (hstep : a.step byte = .settled report replay) (settled : List Piece)
    (rest : Bytes) :
    Advances ⟨settled, a, byte :: rest⟩ ⟨settled ++ [Piece.ofReport report], {}, replay ++ rest⟩
      [Piece.ofReport report] := by
  obtain ⟨body, length, hbody, hverdict, hends⟩ := h.verdict_of_settled hstep
  have hlater := Scan.candidate?_append hverdict rest
  have hstream : unsettled ⟨settled, a, byte :: rest⟩ = syncByte :: (body ++ [byte] ++ rest) := by
    simp [unsettled, hbody]
  refine ⟨rfl, waiting_empty, ?_, ?_⟩
  · rw [hstream]
    rcases hends with ⟨cause, rfl, rfl⟩ | ⟨p, rfl, rfl, rfl⟩
    · exact Scan.pieces_of_candidate_error hlater
    · have hfound := Scan.pieces_of_candidate_ok hlater
      have hdrop : (body ++ [byte] ++ rest).drop (body.length + 2 - 1) = rest :=
        List.drop_left' (by simp)
      rwa [List.append_eq, hdrop] at hfound
  · rcases hends with ⟨cause, rfl, rfl⟩ | ⟨p, rfl, rfl, rfl⟩
    · have hsize := h.buffered_le
      rw [buffered, ← Array.length_toList, hbody] at hsize
      simp [Report.isFault] at hsize ⊢
      omega
    · simp [Report.isFault]

theorem exists_advances {r next : Reading} (h : r.assembler.Waiting) (hnext : r.next? = some next) :
    ∃ found, Advances r next found := by
  obtain ⟨settled, a, pending⟩ := r
  cases pending with
  | nil => cases hnext
  | cons byte rest =>
      simp only [next?] at hnext
      cases hstep : a.step byte with
      | more after =>
          have hadvances := advances_more h hstep settled rest
          simp only [hstep] at hnext
          split at hnext
          case isTrue hsame =>
            cases hnext
            exact ⟨_, (if_pos hsame).mp hadvances⟩
          case isFalse hgrown =>
            cases hnext
            exact ⟨_, (if_neg hgrown).mp hadvances⟩
      | settled report replay =>
          simp only [hstep, Option.some.injEq] at hnext
          exact ⟨_, hnext ▸ advances_settled h hstep settled rest⟩

theorem Ends.settles {rounds : Nat} {r last : Reading} (hends : Ends rounds r last)
    (h : r.assembler.Waiting) :
    ∃ found, last.settled = r.settled ++ found ∧
      pieces r.unsettled = (found, last.assembler.buffer.toList) ∧
      rounds ≤ r.pending.length +
        maxBuffered * (found.filterMap Piece.report?).countP Report.isFault := by
  induction hends with
  | @done r hread =>
      refine ⟨[], by simp, ?_, Nat.zero_le _⟩
      rw [unsettled, hread, List.append_nil, h.pieces_buffer]
  | round hnext _ ih =>
      obtain ⟨first, hfirst⟩ := exists_advances h hnext
      obtain ⟨found, hsettled, hpieces, hrounds⟩ := ih hfirst.waiting
      refine ⟨first ++ found, ?_, ?_, ?_⟩
      · rw [hsettled, hfirst.settled, List.append_assoc]
      · rw [hfirst.pieces, hpieces]
      · have hpending := hfirst.pending
        rw [List.filterMap_append, List.countP_append, Nat.mul_add]
        omega

end Reading

/-- What the rounds of a push have made of its stream, the buffer and the bytes that it reads. -/
structure Accounts (a : Assembler) (bytes : Bytes) (rounds : Nat) (last : Reading) : Prop where
  ends : Reading.Ends rounds ⟨[], a, bytes⟩ last
  rounds_le : rounds ≤ bytes.length + maxBuffered * (a.push bytes).2.countP Report.isFault
  assembler : last.assembler = (a.push bytes).1
  reached : last.assembler.Reached
  reports : last.settled.filterMap Piece.report? = (a.push bytes).2
  balance : a.buffered + bytes.length =
    (a.push bytes).1.buffered + ((accepted (a.push bytes).2).map Packet.wireLength).sum +
      (a.push bytes).2.countP Report.isFault + (dropped last.settled).length
  noise : syncByte ∉ dropped last.settled
  apart : (placed 0 last.settled).Pairwise fun f g => f.1 + f.2.bytes.length ≤ g.1
  places : ∀ f ∈ placed 0 last.settled, Scan.StandsIn (a.buffer.toList ++ bytes) f
  cover : last.settled.flatMap Piece.bytes ++ (a.push bytes).1.buffer.toList =
    a.buffer.toList ++ bytes

/--
A push comes to an end after at most as many rounds as there are bytes and rejected candidates could
bring back.  It settles its stream piece by piece from the front: noise, which is dropped, the sync
byte of each rejected candidate and the frame of each reported packet.  No byte is in two pieces,
and those in none are the buffer that is left.
-/
theorem push_accounts {a : Assembler} (h : a.Reached) (bytes : Bytes) :
    ∃ rounds last, Accounts a bytes rounds last := by
  obtain ⟨rounds, last, hends, hassembler, hreports⟩ := ends_feed a bytes #[] [] rfl
  obtain ⟨found, hsettled, hpieces, hrounds⟩ := hends.settles h.waiting
  have hlast : last.assembler = (a.push bytes).1 := hassembler
  have hpush : (a.push bytes).2 = last.settled.filterMap Piece.report? := hreports.symm
  rw [List.nil_append] at hsettled
  subst hsettled
  have hlength := Scan.length_eq_left_add (a.buffer.toList ++ bytes)
  have hnoise := Scan.syncByte_not_mem_dropped (a.buffer.toList ++ bytes)
  have hplaces := Scan.standsIn_pieces (a.buffer.toList ++ bytes) []
  have hcover := Scan.pieces_cover (a.buffer.toList ++ bytes)
  simp only [Reading.unsettled, hlast] at hpieces
  simp only [hpieces] at hlength hnoise hplaces hcover
  refine ⟨rounds, last, hends, hpush ▸ hrounds, hlast, hlast ▸ h.push bytes, hpush.symm, ?_, hnoise,
    Scan.pairwise_placed 0 _, hplaces, hcover⟩
  rw [List.length_append, Scan.extent_eq] at hlength
  simp only [buffered, ← Array.length_toList, hpush]
  omega

theorem push_accounts_broken_header :
    let a := (push {} [0x13, 0x55, 0x00, 0x01]).1
    let p := Packet.sealed .commonCommand [0x03] []
    a.Reached ∧ ∃ rounds last, Accounts a (p.encode ++ [0x13]) rounds last := by
  intro a p
  have hreached : a.Reached := .push .fresh _
  exact ⟨hreached, push_accounts hreached _⟩

end Assembler

end Esp3Host
