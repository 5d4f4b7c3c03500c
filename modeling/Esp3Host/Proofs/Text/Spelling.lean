import Esp3Host.Text.Blank
import Esp3Host.Text.Numeral
import Mathlib.Data.List.Forall2
import Mathlib.Data.List.Induction
import Mathlib.Data.List.TakeWhile
import Mathlib.Data.Nat.Digits.Defs
import Mathlib.Tactic.IntervalCases

/-!
# How numbers are spelled

`Numeral.Spells` says which texts spell a number, and reading accepts exactly those of numbers up to
the limit.  Blanks around a text are no part of it: `Text.Padded` says what stands between blanks,
and trimming finds it.
-/

namespace Esp3Host

/-! ## Digits -/

namespace Hex

def IsDigit (c : Char) (value : Nat) : Prop :=
  "0123456789abcdef".toList[value]? = some c ∨ "0123456789ABCDEF".toList[value]? = some c

instance (c : Char) (value : Nat) : Decidable (IsDigit c value) :=
  inferInstanceAs (Decidable (_ ∨ _))

theorem IsDigit.lt {c : Char} {value : Nat} (h : IsDigit c value) : value < 16 := by
  rcases h with h | h <;> exact (List.getElem?_eq_some_iff.mp h).1

theorem IsDigit.mem {c : Char} {value : Nat} (h : IsDigit c value) :
    c ∈ "0123456789abcdef".toList ++ "0123456789ABCDEF".toList :=
  List.mem_append.mpr (h.imp List.mem_of_getElem? List.mem_of_getElem?)

theorem digit?_of_isDigit {c : Char} {value : Nat} (h : IsDigit c value) :
    digit? c = some value := by
  have hlt := h.lt
  unfold IsDigit at h
  interval_cases value <;> rcases h with h | h <;> cases h <;> rfl

theorem char_le_iff {a b : Char} : a ≤ b ↔ a.toNat ≤ b.toNat := by
  rw [Char.le_def, UInt32.le_iff_toNat_le]
  rfl

theorem isDigit_of_digit? {c : Char} {value : Nat} (h : digit? c = some value) :
    IsDigit c value := by
  have hc : Char.ofNat c.toNat = c := Char.ofNat_toNat c
  simp only [digit?, char_le_iff] at h
  rw [← hc]
  generalize c.toNat = n at h
  -- Each of the three ranges of code points has its digits one after the other.
  split at h
  case isTrue hrange =>
    obtain ⟨hlow, hhigh⟩ : 48 ≤ n ∧ n ≤ 57 := hrange
    interval_cases n <;> cases h <;> exact .inl rfl
  case isFalse =>
    split at h
    case isTrue hrange =>
      obtain ⟨hlow, hhigh⟩ : 97 ≤ n ∧ n ≤ 102 := hrange
      interval_cases n <;> cases h <;> exact .inl rfl
    case isFalse =>
      split at h
      case isTrue hrange =>
        obtain ⟨hlow, hhigh⟩ : 65 ≤ n ∧ n ≤ 70 := hrange
        interval_cases n <;> cases h <;> exact .inr rfl
      case isFalse => cases h

theorem digit?_eq_some_iff {c : Char} {value : Nat} : digit? c = some value ↔ IsDigit c value :=
  ⟨isDigit_of_digit?, digit?_of_isDigit⟩

theorem isDigit_upperDigit : ∀ value < 16, IsDigit (upperDigit value) value ∧
    IsDigit (upperDigit value).toLower value := by
  decide

theorem not_isDigit_plus (value : Nat) : ¬IsDigit '+' value := by
  intro h
  cases digit?_of_isDigit h

end Hex

/-! ## Numerals -/

namespace Numeral

variable {radix limit value n : Nat} {text digits : List Char}

/-- The digits of a number, the most significant first, with any number of zeros in front. -/
def Digits (radix : Nat) (digits : List Char) (n : Nat) : Prop :=
  ∃ values, List.Forall₂ (fun c d => Hex.IsDigit c d ∧ d < radix) digits values ∧
    Nat.ofDigits radix values.reverse = n

/-- One or more digits of a number, perhaps behind a plus sign. -/
def Spells (radix : Nat) (text : List Char) (n : Nat) : Prop :=
  ∃ sign digits, text = sign ++ digits ∧ (sign = [] ∨ sign = ['+']) ∧ digits ≠ [] ∧
    Digits radix digits n

def characters : List Char := '+' :: ("0123456789abcdef".toList ++ "0123456789ABCDEF".toList)

theorem Digits.mem_characters (h : Digits radix digits n) : ∀ c ∈ digits, c ∈ characters := by
  obtain ⟨values, hvalues, -⟩ := h
  have hmem : List.Forall₂ (fun c _ => c ∈ characters ∧ True) digits values :=
    hvalues.imp fun _ _ hd => ⟨List.mem_cons_of_mem _ hd.1.mem, trivial⟩
  exact ((List.forall₂_and_left digits values).mp hmem).1

theorem Spells.mem_characters (h : Spells radix text n) : ∀ c ∈ text, c ∈ characters := by
  obtain ⟨sign, digits, rfl, rfl | rfl, -, hdigits⟩ := h
  · exact hdigits.mem_characters
  · intro c hc
    rcases List.mem_cons.mp hc with rfl | hc
    · exact List.mem_cons_self
    · exact hdigits.mem_characters c hc

theorem Spells.ne_nil (h : Spells radix text n) : text ≠ [] := by
  obtain ⟨sign, digits, rfl, -, hne, -⟩ := h
  exact List.append_ne_nil_of_right_ne_nil sign hne

theorem digit?_eq_some_iff {c : Char} {d : Nat} :
    digit? radix c = some d ↔ Hex.IsDigit c d ∧ d < radix := by
  simp [digit?, Option.filter_eq_some_iff, Hex.digit?_eq_some_iff]

def extend (radix value : Nat) (values : List Nat) : Nat :=
  values.foldl (fun value d => radix * value + d) value

theorem ofDigits_reverse (radix : Nat) (values : List Nat) :
    Nat.ofDigits radix values.reverse = extend radix 0 values := by
  rw [Nat.ofDigits_eq_foldr, List.foldr_reverse, extend]
  congr
  funext value d
  exact Nat.add_comm _ _

theorem le_extend (hradix : 0 < radix) (value : Nat) (values : List Nat) :
    value ≤ extend radix value values := by
  induction values generalizing value with
  | nil => exact Nat.le_refl value
  | cons d rest ih =>
      have hmul : value ≤ radix * value := Nat.le_mul_of_pos_left value hradix
      exact (Nat.le_trans hmul (Nat.le_add_right _ d)).trans (ih _)

theorem Digits.push {c : Char} {d : Nat} (h : Digits radix digits n) (hdigit : Hex.IsDigit c d)
    (hd : d < radix) : Digits radix (digits ++ [c]) (radix * n + d) := by
  obtain ⟨values, hvalues, rfl⟩ := h
  refine ⟨values ++ [d], List.rel_append hvalues (.cons ⟨hdigit, hd⟩ .nil), ?_⟩
  rw [ofDigits_reverse, ofDigits_reverse, extend, List.foldl_append]
  rfl

theorem digits_upperPairs (bytes : Bytes) :
    Digits 16 (bytes.flatMap Hex.upperPair) (Bytes.toNat bytes) := by
  induction bytes using List.reverseRecOn with
  | nil => exact ⟨[], .nil, rfl⟩
  | append_singleton bytes byte ih =>
      have hbyte := byte.toNat_lt
      have hhigh : byte.toNat / 16 < 16 := by omega
      have hlow : byte.toNat % 16 < 16 := Nat.mod_lt _ (by decide)
      have hpushed := (ih.push (Hex.isDigit_upperDigit _ hhigh).1 hhigh).push
        (Hex.isDigit_upperDigit _ hlow).1 hlow
      have hvalue : 16 * (16 * Bytes.toNat bytes + byte.toNat / 16) + byte.toNat % 16 =
          Bytes.toNat (bytes ++ [byte]) := by
        rw [Bytes.toNat, Bytes.toNat, List.foldl_append, List.foldl_cons, List.foldl_nil]
        omega
      rw [hvalue, List.append_assoc] at hpushed
      rwa [List.flatMap_append, List.flatMap_singleton]

theorem readDigits_eq_ok_iff (hvalue : value ≤ limit) :
    readDigits radix limit value text = .ok n ↔
      ∃ values, List.Forall₂ (fun c d => Hex.IsDigit c d ∧ d < radix) text values ∧
        extend radix value values = n ∧ n ≤ limit := by
  induction text generalizing value with
  | nil =>
      simp only [readDigits, Except.ok.injEq, List.forall₂_nil_left_iff, exists_eq_left]
      constructor
      · rintro rfl
        exact ⟨rfl, hvalue⟩
      · exact fun h => h.1
  | cons c rest ih =>
      simp only [readDigits, List.forall₂_cons_left_iff]
      cases hdigit : digit? radix c with
      | none =>
          simp only [reduceCtorEq, false_iff]
          rintro ⟨_, ⟨d, later, hd, -, -⟩, -⟩
          cases hdigit.symm.trans (digit?_eq_some_iff.mpr hd)
      | some d =>
          have hd := digit?_eq_some_iff.mp hdigit
          have hradix : 0 < radix := Nat.zero_lt_of_lt hd.2
          dsimp only
          split
          case isTrue hover =>
            -- Further digits never bring the value down again.
            simp only [reduceCtorEq, false_iff]
            rintro ⟨_, ⟨d', later, hd', -, rfl⟩, hextend, hlimit⟩
            obtain rfl : d = d' :=
              Option.some.inj (hdigit.symm.trans (digit?_eq_some_iff.mpr hd'))
            have hle := le_extend hradix (radix * value + d) later
            rw [← hextend] at hlimit
            exact absurd (Nat.le_trans hle hlimit) (by omega)
          case isFalse hwithin =>
            rw [ih (by omega)]
            constructor
            · rintro ⟨later, hlater, hextend, hlimit⟩
              exact ⟨d :: later, ⟨d, later, hd, hlater, rfl⟩, hextend, hlimit⟩
            · rintro ⟨_, ⟨d', later, hd', hlater, rfl⟩, hextend, hlimit⟩
              obtain rfl : d = d' :=
                Option.some.inj (hdigit.symm.trans (digit?_eq_some_iff.mpr hd'))
              exact ⟨later, hlater, hextend, hlimit⟩

theorem readDigits_zero_eq_ok_iff :
    readDigits radix limit 0 digits = .ok n ↔ Digits radix digits n ∧ n ≤ limit := by
  rw [readDigits_eq_ok_iff (Nat.zero_le limit), Digits]
  simp only [ofDigits_reverse]
  tauto

theorem not_digits_plus {rest : List Char} : ¬Digits radix ('+' :: rest) n := by
  rintro ⟨values, hvalues, -⟩
  obtain ⟨d, later, hd, -⟩ := List.forall₂_cons_left_iff.mp hvalues
  exact Hex.not_isDigit_plus d hd.1

theorem spells_plus_iff {rest : List Char} :
    Spells radix ('+' :: rest) n ↔ rest ≠ [] ∧ Digits radix rest n := by
  constructor
  · rintro ⟨sign, digits, htext, rfl | rfl, hne, hdigits⟩
    · obtain rfl : digits = '+' :: rest := htext.symm
      exact absurd hdigits not_digits_plus
    · obtain rfl : rest = digits := List.tail_eq_of_cons_eq htext
      exact ⟨hne, hdigits⟩
  · rintro ⟨hne, hdigits⟩
    exact ⟨['+'], rest, rfl, .inr rfl, hne, hdigits⟩

theorem spells_iff_of_no_plus (h : text.head? ≠ some '+') :
    Spells radix text n ↔ text ≠ [] ∧ Digits radix text n := by
  constructor
  · rintro ⟨sign, digits, rfl, rfl | rfl, hne, hdigits⟩
    · exact ⟨hne, hdigits⟩
    · simp at h
  · rintro ⟨hne, hdigits⟩
    exact ⟨[], text, rfl, .inl rfl, hne, hdigits⟩

theorem read_eq_ok_iff :
    read radix limit text = .ok n ↔ Spells radix text n ∧ n ≤ limit := by
  unfold read
  split
  case h_1 =>
    have hempty : ¬Spells radix [] n := fun h => ((spells_iff_of_no_plus (by simp)).mp h).1 rfl
    simp [hempty]
  case h_2 => simp [spells_plus_iff]
  case h_3 rest hrest =>
    have hne : rest ≠ [] := fun h => hrest (by rw [h])
    rw [readDigits_zero_eq_ok_iff, spells_plus_iff]
    simp [hne]
  case h_4 hempty hplus hrest =>
    have hne : text ≠ [] := hempty
    have hhead : text.head? ≠ some '+' := by
      intro hhead
      obtain ⟨rest, rfl⟩ := List.head?_eq_some_iff.mp hhead
      exact hrest rest rfl
    rw [readDigits_zero_eq_ok_iff, spells_iff_of_no_plus hhead]
    simp [hne]

end Numeral

/-! ## Blanks around a text -/

namespace Text

variable {core text : List Char}

/-- The text is this one between blanks. -/
def Padded (core text : List Char) : Prop :=
  ∃ before after, (∀ c ∈ before, isBlank c = true) ∧ (∀ c ∈ after, isBlank c = true) ∧
    text = before ++ core ++ after

theorem padded_self (text : List Char) : Padded text text :=
  ⟨[], [], nofun, nofun, by simp⟩

theorem padded_trim (text : List Char) : Padded (trim text) text := by
  let rest := text.dropWhile isBlank
  have hrest : rest = trim text ++ (rest.reverse.takeWhile isBlank).reverse := by
    rw [trim, ← List.reverse_append, List.takeWhile_append_dropWhile, List.reverse_reverse]
  refine ⟨text.takeWhile isBlank, (rest.reverse.takeWhile isBlank).reverse,
    fun c hc => List.mem_takeWhile_imp hc,
    fun c hc => List.mem_takeWhile_imp (List.mem_reverse.mp hc), ?_⟩
  rw [List.append_assoc, ← hrest, List.takeWhile_append_dropWhile]

theorem Padded.count_eq (h : Padded core text) {c : Char} (hc : isBlank c = false) :
    text.count c = core.count c := by
  obtain ⟨before, after, hbefore, hafter, rfl⟩ := h
  have hnone {blanks : List Char} (hblanks : ∀ b ∈ blanks, isBlank b = true) :
      blanks.count c = 0 :=
    List.count_eq_zero.mpr fun hmem => by simp [hblanks c hmem] at hc
  rw [List.count_append, List.count_append, hnone hbefore, hnone hafter]
  omega

theorem dropWhile_blanks {before rest : List Char} (hbefore : ∀ c ∈ before, isBlank c = true)
    (hrest : ∀ c ∈ rest.head?, isBlank c = false) :
    (before ++ rest).dropWhile isBlank = rest := by
  rw [List.dropWhile_append_of_pos hbefore]
  cases rest with
  | nil => rfl
  | cons c rest =>
      have hc : isBlank c = false := hrest c rfl
      rw [List.dropWhile_cons_of_neg (by simp [hc])]

theorem trim_of_padded (h : Padded core text) (hne : core ≠ [])
    (hcore : ∀ c ∈ core, isBlank c = false) : trim text = core := by
  obtain ⟨before, after, hbefore, hafter, rfl⟩ := h
  have hfront : ∀ c ∈ (core ++ after).head?, isBlank c = false := by
    rw [List.head?_append_of_ne_nil core hne]
    exact fun c hc => hcore c (List.mem_of_mem_head? hc)
  have hback : ∀ c ∈ core.reverse.head?, isBlank c = false :=
    fun c hc => hcore c (List.mem_reverse.mp (List.mem_of_mem_head? hc))
  rw [trim, List.append_assoc, dropWhile_blanks hbefore hfront, List.reverse_append,
    dropWhile_blanks (by simpa using hafter) hback, List.reverse_reverse]

theorem trim_iff_padded {P : List Char → Prop}
    (hbare : ∀ core, P core → core ≠ [] ∧ ∀ c ∈ core, isBlank c = false) :
    P (trim text) ↔ ∃ core, Padded core text ∧ P core := by
  constructor
  · exact fun h => ⟨_, padded_trim text, h⟩
  · rintro ⟨core, hpadded, hcore⟩
    obtain ⟨hne, hblank⟩ := hbare core hcore
    rwa [trim_of_padded hpadded hne hblank]

theorem trim_eq_nil_iff : trim text = [] ↔ ∀ c ∈ text, isBlank c = true := by
  constructor
  · intro hnil c hc
    obtain ⟨before, after, hbefore, hafter, htext⟩ := padded_trim text
    rw [htext, hnil, List.append_nil] at hc
    exact (List.mem_append.mp hc).elim (hbefore c) (hafter c)
  · intro hblank
    simp [trim, List.dropWhile_eq_nil_iff.mpr hblank]

end Text

end Esp3Host
