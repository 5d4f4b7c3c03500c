import Esp3Host.Address
import Esp3Host.Proofs.Text.Spelling

/-!
# How addresses are typed

An address is one numeral behind its marks.  All marks in lower case are taken away, and then all
marks in upper case: a text may begin with any number of them in this order, and not in the other.
Reading accepts these texts between blanks and no others, so a text with more than one mark is read
as well.  What an address is shown as has one mark.
-/

namespace Esp3Host.Address

variable {first second : Char} {text rest digits : List Char} {given : String} {a : Address}

/-! ## Marks -/

def marks (first second : Char) (count : Nat) : List Char :=
  (List.replicate count [first, second]).flatten

theorem marks_succ (first second : Char) (count : Nat) :
    marks first second (count + 1) = first :: second :: marks first second count := rfl

theorem dropMarks_mark (first second : Char) (rest : List Char) :
    dropMarks first second (first :: second :: rest) = dropMarks first second rest := by
  rw [dropMarks, if_pos ⟨rfl, rfl⟩]

theorem dropMarks_marks_append (first second : Char) (count : Nat) (rest : List Char) :
    dropMarks first second (marks first second count ++ rest) = dropMarks first second rest := by
  induction count with
  | zero => rfl
  | succ count ih => rw [marks_succ, List.cons_append, List.cons_append, dropMarks_mark, ih]

theorem dropMarks_of_no_mark (h : ¬[first, second] <+: text) :
    dropMarks first second text = text := by
  unfold dropMarks
  split
  case h_1 c d rest =>
    rw [if_neg]
    rintro ⟨rfl, rfl⟩
    exact h (List.prefix_append [c, d] rest)
  case h_2 => rfl

theorem exists_marks (first second : Char) (text : List Char) :
    ∃ count, text = marks first second count ++ dropMarks first second text := by
  fun_induction dropMarks first second text with
  | case1 c d rest hmark ih =>
      obtain ⟨rfl, rfl⟩ := hmark
      obtain ⟨count, hcount⟩ := ih
      exact ⟨count + 1, by rw [marks_succ, List.cons_append, List.cons_append, ← hcount]⟩
  | case2 c d rest hmark => exact ⟨0, rfl⟩
  | case3 rest hrest => exact ⟨0, rfl⟩

theorem mem_marks {c : Char} {count : Nat} (h : c ∈ marks first second count) :
    c = first ∨ c = second := by
  obtain ⟨mark, hmark, hc⟩ := List.mem_flatten.mp h
  rw [List.eq_of_mem_replicate hmark] at hc
  simpa using hc

theorem count_marks (h : first ≠ second) (count : Nat) :
    (marks first second count).count second = count := by
  induction count with
  | zero => rfl
  | succ count ih => rw [marks_succ, List.count_cons_of_ne h, List.count_cons_self, ih]

theorem count_marks_of_ne {c : Char} (hfirst : c ≠ first) (hsecond : c ≠ second) (count : Nat) :
    (marks first second count).count c = 0 :=
  List.count_eq_zero.mpr fun h => (mem_marks h).elim hfirst hsecond

/-! ## The texts that are read -/

/-- A numeral behind marks, those in lower case first. -/
def Spells (text : List Char) (a : Address) : Prop :=
  ∃ lower upper digits, text = marks '0' 'x' lower ++ (marks '0' 'X' upper ++ digits) ∧
    Numeral.Spells 16 digits a.toNat

/-- A numeral behind one mark at most. -/
def SpellsOnce (text : List Char) (a : Address) : Prop :=
  ∃ mark ∈ [[], ['0', 'x'], ['0', 'X']], ∃ digits, text = mark ++ digits ∧
    Numeral.Spells 16 digits a.toNat

theorem no_mark_of_spells {n : Nat} (h : Numeral.Spells 16 digits n)
    (hsecond : second ∉ Numeral.characters) : ¬[first, second] <+: digits := by
  intro hmark
  exact hsecond (h.mem_characters second (hmark.subset (by simp)))

theorem no_lower_of_upper (upper : Nat) (h : ¬['0', 'x'] <+: digits) :
    ¬['0', 'x'] <+: marks '0' 'X' upper ++ digits := by
  cases upper with
  | zero => exact h
  | succ upper =>
      rw [marks_succ]
      simp

theorem dropMarks_of_spells (lower upper : Nat) {n : Nat} (h : Numeral.Spells 16 digits n) :
    dropMarks '0' 'X'
      (dropMarks '0' 'x' (marks '0' 'x' lower ++ (marks '0' 'X' upper ++ digits))) = digits := by
  have hlower : ¬['0', 'x'] <+: digits := no_mark_of_spells h (by decide)
  have hupper : ¬['0', 'X'] <+: digits := no_mark_of_spells h (by decide)
  rw [dropMarks_marks_append, dropMarks_of_no_mark (no_lower_of_upper upper hlower),
    dropMarks_marks_append, dropMarks_of_no_mark hupper]

theorem read_eq_ok_iff_numeral :
    read given = .ok a ↔
      Numeral.Spells 16 (dropMarks '0' 'X' (dropMarks '0' 'x' (Text.trim given.toList)))
        a.toNat := by
  let digits := dropMarks '0' 'X' (dropMarks '0' 'x' (Text.trim given.toList))
  have hnumeral : Numeral.read 16 0xFFFFFFFF digits = .ok a.toNat ↔
      Numeral.Spells 16 digits a.toNat := by
    rw [Numeral.read_eq_ok_iff, and_iff_left a.toNat_le]
  rw [← hnumeral, read]
  cases hdigits : Numeral.read 16 0xFFFFFFFF digits with
  | error cause => simp [Except.map]
  | ok n =>
      have hn : n ≤ 0xFFFFFFFF := (Numeral.read_eq_ok_iff.mp hdigits).2
      simp only [Except.map, Except.ok.injEq]
      constructor
      · rintro rfl
        exact (toNat_ofNat hn).symm
      · rintro rfl
        exact ofNat_toNat a

theorem read_eq_ok_iff : read given = .ok a ↔ Spells (Text.trim given.toList) a := by
  rw [read_eq_ok_iff_numeral]
  constructor
  · intro h
    obtain ⟨lower, hlower⟩ := exists_marks '0' 'x' (Text.trim given.toList)
    obtain ⟨upper, hupper⟩ := exists_marks '0' 'X' (dropMarks '0' 'x' (Text.trim given.toList))
    exact ⟨lower, upper, _, by rw [← hupper, ← hlower], h⟩
  · rintro ⟨lower, upper, digits, htext, hdigits⟩
    rwa [htext, dropMarks_of_spells lower upper hdigits]

theorem isBlank_of_spells (h : Spells text a) : ∀ c ∈ text, Text.isBlank c = false := by
  obtain ⟨lower, upper, digits, rfl, hdigits⟩ := h
  have hall : Numeral.characters.all (!Text.isBlank ·) = true := by decide
  intro c hc
  rcases List.mem_append.mp hc with hlower | hc
  · rcases mem_marks hlower with rfl | rfl <;> rfl
  · rcases List.mem_append.mp hc with hupper | hc
    · rcases mem_marks hupper with rfl | rfl <;> rfl
    · simpa using List.all_eq_true.mp hall c (hdigits.mem_characters c hc)

theorem Spells.ne_nil (h : Spells text a) : text ≠ [] := by
  obtain ⟨lower, upper, digits, rfl, hdigits⟩ := h
  exact List.append_ne_nil_of_right_ne_nil _ (List.append_ne_nil_of_right_ne_nil _ hdigits.ne_nil)

theorem read_eq_ok_iff_padded :
    read given = .ok a ↔ ∃ core, Text.Padded core given.toList ∧ Spells core a := by
  rw [read_eq_ok_iff]
  exact Text.trim_iff_padded fun _ hcore => ⟨hcore.ne_nil, isBlank_of_spells hcore⟩

/-! ## How many marks -/

theorem spellsOnce_iff_marks :
    SpellsOnce text a ↔ ∃ lower upper digits, lower + upper ≤ 1 ∧
      text = marks '0' 'x' lower ++ (marks '0' 'X' upper ++ digits) ∧
      Numeral.Spells 16 digits a.toNat := by
  constructor
  · rintro ⟨mark, hmark, digits, htext, hdigits⟩
    simp only [List.mem_cons, List.not_mem_nil, or_false] at hmark
    rcases hmark with rfl | rfl | rfl
    · exact ⟨0, 0, digits, by decide, htext, hdigits⟩
    · exact ⟨1, 0, digits, by decide, htext, hdigits⟩
    · exact ⟨0, 1, digits, by decide, htext, hdigits⟩
  · rintro ⟨lower, upper, digits, hcount, htext, hdigits⟩
    have hcases : lower = 0 ∧ upper = 0 ∨ lower = 1 ∧ upper = 0 ∨ lower = 0 ∧ upper = 1 := by
      omega
    rcases hcases with ⟨rfl, rfl⟩ | ⟨rfl, rfl⟩ | ⟨rfl, rfl⟩
    · exact ⟨[], by simp, digits, htext, hdigits⟩
    · exact ⟨['0', 'x'], by simp, digits, htext, hdigits⟩
    · exact ⟨['0', 'X'], by simp, digits, htext, hdigits⟩

theorem SpellsOnce.spells (h : SpellsOnce text a) : Spells text a := by
  obtain ⟨lower, upper, digits, -, hspelled⟩ := spellsOnce_iff_marks.mp h
  exact ⟨lower, upper, digits, hspelled⟩

theorem count_of_spells {c : Char} {n : Nat} (h : Numeral.Spells 16 digits n)
    (hc : c ∉ Numeral.characters) : digits.count c = 0 :=
  List.count_eq_zero.mpr fun hmem => hc (h.mem_characters c hmem)

theorem letters_eq {n : Nat} (h : Numeral.Spells 16 digits n) (lower upper : Nat)
    (htext : text = marks '0' 'x' lower ++ (marks '0' 'X' upper ++ digits)) :
    text.count 'x' + text.count 'X' = lower + upper := by
  have hx : digits.count 'x' = 0 := count_of_spells h (by decide)
  have hX : digits.count 'X' = 0 := count_of_spells h (by decide)
  simp only [htext, List.count_append, hx, hX, count_marks (show '0' ≠ 'x' by decide),
    count_marks (show '0' ≠ 'X' by decide),
    count_marks_of_ne (show 'X' ≠ '0' by decide) (show 'X' ≠ 'x' by decide),
    count_marks_of_ne (show 'x' ≠ '0' by decide) (show 'x' ≠ 'X' by decide)]
  omega

theorem spellsOnce_iff (h : Spells text a) :
    SpellsOnce text a ↔ text.count 'x' + text.count 'X' ≤ 1 := by
  rw [spellsOnce_iff_marks]
  constructor
  · rintro ⟨lower, upper, digits, hcount, htext, hdigits⟩
    rwa [letters_eq hdigits lower upper htext]
  · intro hcount
    obtain ⟨lower, upper, digits, htext, hdigits⟩ := h
    rw [letters_eq hdigits lower upper htext] at hcount
    exact ⟨lower, upper, digits, hcount, htext, hdigits⟩

theorem Spells.eq_trim (h : Spells text a) (hpadded : Text.Padded text given.toList) :
    text = Text.trim given.toList :=
  (Text.trim_of_padded hpadded h.ne_nil (isBlank_of_spells h)).symm

theorem exists_once_iff (h : read given = .ok a) :
    (∃ core, Text.Padded core given.toList ∧ SpellsOnce core a) ↔
      given.toList.count 'x' + given.toList.count 'X' ≤ 1 := by
  obtain ⟨core, hpadded, hcore⟩ := read_eq_ok_iff_padded.mp h
  rw [hpadded.count_eq (c := 'x') rfl, hpadded.count_eq (c := 'X') rfl, ← spellsOnce_iff hcore]
  constructor
  · rintro ⟨other, hother, honce⟩
    rwa [hcore.eq_trim hpadded, ← honce.spells.eq_trim hother]
  · exact fun honce => ⟨core, hpadded, honce⟩

/-! ## The texts that are shown -/

theorem spells_text (a : Address) : Spells a.text.toList a := by
  refine ⟨1, 0, a.toBytes.flatMap Hex.upperPair, by simp [text, marks], ?_⟩
  exact ⟨[], _, rfl, .inl rfl, by simp [Hex.upperPair],
    Numeral.digits_upperPairs a.toBytes⟩

theorem read_text (a : Address) : read a.text = .ok a :=
  read_eq_ok_iff_padded.mpr ⟨_, Text.padded_self _, spells_text a⟩

/--
A text is read as an address if it spells its number between blanks, behind any number of marks in
lower case and then any number in upper case.  These are the texts with one mark at most except where
the text has the letters of two.  What an address is shown as is read as this address.
-/
theorem read_behind_all_marks (given : String) (a : Address) :
    (read given = .ok a ↔ ∃ core, Text.Padded core given.toList ∧ Spells core a) ∧
    ((read given = .ok a ↔ ∃ core, Text.Padded core given.toList ∧ SpellsOnce core a) ↔
      (read given = .ok a → given.toList.count 'x' + given.toList.count 'X' ≤ 1)) ∧
    read a.text = .ok a := by
  refine ⟨read_eq_ok_iff_padded, ?_, read_text a⟩
  constructor
  · exact fun hmeets hread => (exists_once_iff hread).mp (hmeets.mp hread)
  · intro hone
    constructor
    · exact fun hread => (exists_once_iff hread).mpr (hone hread)
    · rintro ⟨core, hpadded, honce⟩
      exact read_eq_ok_iff_padded.mpr ⟨core, hpadded, honce.spells⟩

theorem read_behind_all_marks_twice :
    read "0x0X12" = .ok ⟨0x00, 0x00, 0x00, 0x12⟩ ∧
      ¬∃ core, Text.Padded core "0x0X12".toList ∧ SpellsOnce core ⟨0x00, 0x00, 0x00, 0x12⟩ := by
  obtain ⟨hread, hmeets, -⟩ := read_behind_all_marks "0x0X12" ⟨0x00, 0x00, 0x00, 0x12⟩
  have hdigits : Numeral.Spells 16 ['1', '2'] 0x12 :=
    ⟨[], ['1', '2'], rfl, .inl rfl, by decide, [1, 2],
      .cons (by decide) (.cons (by decide) .nil), by decide⟩
  have haddress : read "0x0X12" = .ok ⟨0x00, 0x00, 0x00, 0x12⟩ :=
    hread.mpr ⟨_, Text.padded_self _, 1, 1, ['1', '2'], rfl, hdigits⟩
  refine ⟨haddress, fun honce => ?_⟩
  exact absurd (hmeets.mp (iff_of_true haddress honce) haddress) (by decide)

end Esp3Host.Address
