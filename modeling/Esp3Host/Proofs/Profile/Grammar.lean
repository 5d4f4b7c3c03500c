import Esp3Host.Profile
import Esp3Host.Proofs.Text.Spelling

/-!
# The grammar of profile texts

Three numerals of one byte each, with a separator between any two of them, and perhaps blanks around
the whole: reading a profile accepts these texts and no others.  The text a profile is shown as is
one of them, whatever case its digits are put in and whatever separators are put between them.
-/

namespace Esp3Host.Profile

variable {p : Profile} {text shown : List Char} {given : String}

/-! ## Parts -/

theorem parts_eq_splitOnP (text : List Char) : parts text = text.splitOnP isSeparator := by
  induction text with
  | nil => rfl
  | cons c rest ih =>
      rw [parts, List.splitOnP_cons_eq_if_modifyHead, ih]
      split
      case isTrue => rfl
      case isFalse =>
        cases hrest : rest.splitOnP isSeparator with
        | nil => exact absurd hrest (List.splitOnP_ne_nil isSeparator rest)
        | cons first others => rfl

theorem parts_append_separator (htext : ∀ c ∈ text, isSeparator c = false) {separator : Char}
    (hseparator : isSeparator separator = true) (rest : List Char) :
    parts (text ++ separator :: rest) = text :: parts rest := by
  rw [parts_eq_splitOnP, parts_eq_splitOnP,
    List.splitOnP_append_cons_of_forall_mem htext separator hseparator]

theorem parts_of_no_separator (htext : ∀ c ∈ text, isSeparator c = false) :
    parts text = [text] := by
  rw [parts_eq_splitOnP, List.splitOnP_eq_singleton htext]

theorem parts_cases (text : List Char) :
    parts text = [text] ∨ ∃ first separator rest, text = first ++ separator :: rest ∧
      isSeparator separator = true ∧ parts text = first :: parts rest := by
  have hfirst : ∀ c ∈ text.takeWhile (!isSeparator ·), isSeparator c = false :=
    fun c hc => by simpa using List.mem_takeWhile_imp hc
  have hsplit := List.takeWhile_append_dropWhile (p := (!isSeparator ·)) (l := text)
  have hhead := List.head?_dropWhile_not (!isSeparator ·) text
  cases hrest : text.dropWhile (!isSeparator ·) with
  | nil =>
      rw [hrest, List.append_nil] at hsplit
      rw [hsplit] at hfirst
      exact .inl (parts_of_no_separator hfirst)
  | cons separator rest =>
      have hseparator : isSeparator separator = true := by simpa [hrest] using hhead
      rw [hrest] at hsplit
      have hparts := parts_append_separator hfirst hseparator rest
      rw [hsplit] at hparts
      exact .inr ⟨_, separator, rest, hsplit.symm, hseparator, hparts⟩

theorem eq_of_parts_eq_singleton {part : List Char} (h : parts text = [part]) : text = part := by
  rcases parts_cases text with hsingle | ⟨first, separator, rest, -, -, hparts⟩
  · exact List.singleton_injective (hsingle.symm.trans h)
  · obtain ⟨-, hnil⟩ := List.cons_eq_cons.mp (hparts.symm.trans h)
    rw [parts_eq_splitOnP] at hnil
    exact absurd hnil (List.splitOnP_ne_nil isSeparator rest)

theorem exists_of_parts_eq_cons {first second : List Char} {others : List (List Char)}
    (h : parts text = first :: second :: others) :
    ∃ separator rest, isSeparator separator = true ∧ text = first ++ separator :: rest ∧
      parts rest = second :: others := by
  rcases parts_cases text with hsingle | ⟨first', separator, rest, htext, hseparator, hparts⟩
  · cases hsingle.symm.trans h
  · obtain ⟨rfl, hothers⟩ := List.cons_eq_cons.mp (hparts.symm.trans h)
    exact ⟨separator, rest, hseparator, htext, hothers⟩

/-! ## The texts that are read -/

def separators : List Char := ['-', ':', '_']

theorem isSeparator_iff {c : Char} : isSeparator c = true ↔ c ∈ separators := by
  simp [isSeparator, separators, or_assoc]

/-- Family, function and type, each as a numeral, with separators between them. -/
inductive Spells : List Char → Profile → Prop where
  | parts {p : Profile} {rorg func variant : List Char} {first second : Char}
      (hrorg : Numeral.Spells 16 rorg p.rorg.toNat)
      (hfirst : first ∈ separators) (hfunc : Numeral.Spells 16 func p.func.toNat)
      (hsecond : second ∈ separators) (hvariant : Numeral.Spells 16 variant p.variant.toNat) :
      Spells (rorg ++ first :: (func ++ second :: variant)) p

theorem readPart_eq_ok_iff {byte : UInt8} :
    readPart text = .ok byte ↔ Numeral.Spells 16 text byte.toNat := by
  have hlimit : byte.toNat ≤ 0xFF := by have := byte.toNat_lt; omega
  have hread : Numeral.read 16 0xFF text = .ok byte.toNat ↔ Numeral.Spells 16 text byte.toNat := by
    rw [Numeral.read_eq_ok_iff, and_iff_left hlimit]
  rw [← hread, readPart]
  cases htext : Numeral.read 16 0xFF text with
  | error cause => simp
  | ok n =>
      have hn : n ≤ 0xFF := (Numeral.read_eq_ok_iff.mp htext).2
      simp only [Except.ok.injEq]
      constructor
      · rintro rfl
        exact (UInt8.toNat_ofNat_of_lt' (Nat.lt_succ_of_le hn)).symm
      · rintro rfl
        exact UInt8.ofNat_toNat

theorem isSeparator_of_spells {n : Nat} (h : Numeral.Spells 16 text n) :
    ∀ c ∈ text, isSeparator c = false := by
  have hall : Numeral.characters.all (!isSeparator ·) = true := by decide
  intro c hc
  simpa using List.all_eq_true.mp hall c (h.mem_characters c hc)

theorem spells_iff : Spells text p ↔ ∃ rorg func variant, parts text = [rorg, func, variant] ∧
    Numeral.Spells 16 rorg p.rorg.toNat ∧ Numeral.Spells 16 func p.func.toNat ∧
    Numeral.Spells 16 variant p.variant.toNat := by
  constructor
  · rintro ⟨hrorg, hfirst, hfunc, hsecond, hvariant⟩
    refine ⟨_, _, _, ?_, hrorg, hfunc, hvariant⟩
    rw [parts_append_separator (isSeparator_of_spells hrorg) (isSeparator_iff.mpr hfirst),
      parts_append_separator (isSeparator_of_spells hfunc) (isSeparator_iff.mpr hsecond),
      parts_of_no_separator (isSeparator_of_spells hvariant)]
  · rintro ⟨rorg, func, variant, hparts, hrorg, hfunc, hvariant⟩
    obtain ⟨first, rest, hfirst, rfl, hrest⟩ := exists_of_parts_eq_cons hparts
    obtain ⟨second, last, hsecond, rfl, hlast⟩ := exists_of_parts_eq_cons hrest
    obtain rfl := eq_of_parts_eq_singleton hlast
    exact .parts hrorg (isSeparator_iff.mp hfirst) hfunc (isSeparator_iff.mp hsecond) hvariant

theorem bind_eq_ok_iff {ε α β : Type} {x : Except ε α} {f : α → Except ε β} {b : β} :
    x >>= f = .ok b ↔ ∃ a, x = .ok a ∧ f a = .ok b := by
  cases x with
  | error cause => simp [bind, Except.bind]
  | ok a => simp [bind, Except.bind]

theorem read_eq_ok_iff_parts :
    read given = .ok p ↔ ∃ rorg func variant,
      parts (Text.trim given.toList) = [rorg, func, variant] ∧
      readPart rorg = .ok p.rorg ∧ readPart func = .ok p.func ∧
      readPart variant = .ok p.variant := by
  unfold read
  split
  case h_1 rorg func variant hparts =>
    simp only [hparts, bind_eq_ok_iff, pure, Except.pure, Except.ok.injEq]
    constructor
    · rintro ⟨a, hrorg, b, hfunc, c, hvariant, rfl⟩
      exact ⟨rorg, func, variant, rfl, hrorg, hfunc, hvariant⟩
    · rintro ⟨_, _, _, hthree, hrorg, hfunc, hvariant⟩
      cases hthree
      exact ⟨_, hrorg, _, hfunc, _, hvariant, rfl⟩
  case h_2 hparts =>
    simp only [reduceCtorEq, false_iff]
    rintro ⟨rorg, func, variant, hthree, -⟩
    exact hparts rorg func variant hthree

theorem read_eq_ok_iff : read given = .ok p ↔ Spells (Text.trim given.toList) p := by
  simp only [read_eq_ok_iff_parts, spells_iff, readPart_eq_ok_iff]

theorem Spells.ne_nil (h : Spells text p) : text ≠ [] := by
  obtain ⟨hrorg, -, -, -, -⟩ := h
  exact List.append_ne_nil_of_left_ne_nil hrorg.ne_nil _

theorem Spells.mem_characters (h : Spells text p) :
    ∀ c ∈ text, c ∈ Numeral.characters ++ separators := by
  obtain ⟨hrorg, hfirst, hfunc, hsecond, hvariant⟩ := h
  have hnumeral {part : List Char} {n : Nat} (hpart : Numeral.Spells 16 part n) :
      ∀ c ∈ part, c ∈ Numeral.characters ++ separators :=
    fun c hc => List.mem_append_left _ (hpart.mem_characters c hc)
  simp only [List.forall_mem_append, List.forall_mem_cons]
  exact ⟨hnumeral hrorg, List.mem_append_right _ hfirst, hnumeral hfunc,
    List.mem_append_right _ hsecond, hnumeral hvariant⟩

theorem isBlank_of_spells (h : Spells text p) : ∀ c ∈ text, Text.isBlank c = false := by
  have hall : (Numeral.characters ++ separators).all (!Text.isBlank ·) = true := by decide
  intro c hc
  simpa using List.all_eq_true.mp hall c (h.mem_characters c hc)

theorem read_eq_ok_iff_padded :
    read given = .ok p ↔ ∃ core, Text.Padded core given.toList ∧ Spells core p := by
  rw [read_eq_ok_iff]
  exact Text.trim_iff_padded fun _ hcore => ⟨hcore.ne_nil, isBlank_of_spells hcore⟩

/-! ## The texts that are shown -/

/-- The character may stand for this one: a letter in either case, a separator for a dash. -/
def Restyles (c shown : Char) : Prop :=
  shown = c ∨ shown = c.toLower ∨ (c = '-' ∧ shown ∈ separators)

instance (c shown : Char) : Decidable (Restyles c shown) :=
  inferInstanceAs (Decidable (_ ∨ _ ∨ _))

theorem isDigit_of_restyles {value : Nat} (hvalue : value < 16) {shown : Char}
    (h : Restyles (Hex.upperDigit value) shown) : Hex.IsDigit shown value := by
  obtain ⟨hupper, hlower⟩ := Hex.isDigit_upperDigit value hvalue
  rcases h with rfl | rfl | ⟨hdash, -⟩
  · exact hupper
  · exact hlower
  · rw [hdash] at hupper
    cases Hex.digit?_of_isDigit hupper

theorem mem_separators_of_restyles {shown : Char} (h : Restyles '-' shown) :
    shown ∈ separators := by
  rcases h with rfl | rfl | ⟨-, hshown⟩
  · decide
  · decide
  · exact hshown

theorem spells_of_restyles {byte : UInt8} {high low : Char}
    (hhigh : Restyles (Hex.upperDigit (byte.toNat / 16)) high)
    (hlow : Restyles (Hex.upperDigit (byte.toNat % 16)) low) :
    Numeral.Spells 16 [high, low] byte.toNat := by
  have hbyte := byte.toNat_lt
  have hfirst : byte.toNat / 16 < 16 := by omega
  have hsecond : byte.toNat % 16 < 16 := Nat.mod_lt _ (by decide)
  refine ⟨[], [high, low], rfl, .inl rfl, List.cons_ne_nil _ _,
    [byte.toNat / 16, byte.toNat % 16],
    .cons ⟨isDigit_of_restyles hfirst hhigh, hfirst⟩
      (.cons ⟨isDigit_of_restyles hsecond hlow, hsecond⟩ .nil), ?_⟩
  simp only [List.reverse_cons, List.reverse_nil, List.nil_append, List.cons_append,
    Nat.ofDigits_cons, Nat.ofDigits_nil]
  omega

theorem spells_of_restyled (h : List.Forall₂ Restyles p.text.toList shown) : Spells shown p := by
  simp only [Profile.text, Hex.upperPair, String.toList_ofList, List.cons_append,
    List.nil_append, List.forall₂_cons_left_iff, List.forall₂_nil_left_iff] at h
  obtain ⟨_, _, hr₁, ⟨_, _, hr₂, ⟨_, _, hs₁, ⟨_, _, hf₁, ⟨_, _, hf₂, ⟨_, _, hs₂,
    ⟨_, _, hv₁, ⟨_, _, hv₂, rfl, rfl⟩, rfl⟩, rfl⟩, rfl⟩, rfl⟩, rfl⟩, rfl⟩, rfl⟩ := h
  exact .parts (spells_of_restyles hr₁ hr₂) (mem_separators_of_restyles hs₁)
    (spells_of_restyles hf₁ hf₂) (mem_separators_of_restyles hs₂) (spells_of_restyles hv₁ hv₂)

theorem read_text (p : Profile) : read p.text = .ok p :=
  read_eq_ok_iff_padded.mpr ⟨p.text.toList, Text.padded_self _,
    spells_of_restyled (List.forall₂_same.mpr fun _ _ => .inl rfl)⟩

/--
The texts read as a profile are those that spell it between blanks; the text it is shown as, in
either case of each letter and with any separators, is one of them.
-/
theorem read_exactly_spelled :
    (∀ given p, read given = .ok p ↔ ∃ core, Text.Padded core given.toList ∧ Spells core p) ∧
    ∀ p given shown, List.Forall₂ Restyles p.text.toList shown →
      Text.Padded shown given.toList → read given = .ok p :=
  ⟨fun _ _ => read_eq_ok_iff_padded, fun _ _ shown hshown hpadded =>
    read_eq_ok_iff_padded.mpr ⟨shown, hpadded, spells_of_restyled hshown⟩⟩

theorem read_exactly_spelled_sensor :
    read "\tA5:+002_5 " = .ok ⟨0xA5, 0x02, 0x05⟩ ∧ read " a5_02:05" = .ok ⟨0xA5, 0x02, 0x05⟩ := by
  constructor
  · have hrorg : Numeral.Spells 16 ['A', '5'] 0xA5 :=
      ⟨[], ['A', '5'], rfl, .inl rfl, by decide, [10, 5],
        .cons (by decide) (.cons (by decide) .nil), by decide⟩
    have hfunc : Numeral.Spells 16 ['+', '0', '0', '2'] 0x02 :=
      ⟨['+'], ['0', '0', '2'], rfl, .inr rfl, by decide, [0, 0, 2],
        .cons (by decide) (.cons (by decide) (.cons (by decide) .nil)), by decide⟩
    have hvariant : Numeral.Spells 16 ['5'] 0x05 :=
      ⟨[], ['5'], rfl, .inl rfl, by decide, [5], .cons (by decide) .nil, by decide⟩
    have hspells : Spells (['A', '5'] ++ ':' :: (['+', '0', '0', '2'] ++ '_' :: ['5']))
        ⟨0xA5, 0x02, 0x05⟩ := .parts hrorg (by decide) hfunc (by decide) hvariant
    have hpadded : Text.Padded "A5:+002_5".toList "\tA5:+002_5 ".toList :=
      ⟨['\t'], [' '], List.forall_mem_singleton.mpr rfl, List.forall_mem_singleton.mpr rfl, rfl⟩
    exact (read_exactly_spelled.1 _ _).mpr ⟨_, hpadded, hspells⟩
  · have hshown : List.Forall₂ Restyles (Profile.text ⟨0xA5, 0x02, 0x05⟩).toList
        ['a', '5', '_', '0', '2', ':', '0', '5'] := by
      decide
    have hpadded : Text.Padded ['a', '5', '_', '0', '2', ':', '0', '5'] " a5_02:05".toList :=
      ⟨[' '], [], List.forall_mem_singleton.mpr rfl, nofun, rfl⟩
    exact read_exactly_spelled.2 _ _ _ hshown hpadded

end Esp3Host.Profile
