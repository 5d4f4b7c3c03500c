import Esp3Host.Proofs.TeachIn.Replies
import Esp3Host.Proofs.Telegram.LearnBit

/-!
# What a telegram is taken for

Whether a telegram asks for teach-in is told by the telegram, and decided once more by the engine
for each kind.  Before an open window both agree: what does not ask is left alone, and what asks is
learned as what it carries, else as what the window waits for, else as is usual in its family.
-/

namespace Esp3Host.TeachIn

def carried? (t : Telegram) : Option (Profile × Nat) :=
  match t.rorg with
  | .fourByte => carriedProfile? t.payload
  | .universalTeachIn =>
      match Query.ofTelegram t with
      | .ok q => some (q.profile, q.manufacturer)
      | .error _ => none
  | .rps | .oneByte | .variableLength | .manufacturer => none

def usualProfile? : Rorg → Option Profile
  | .rps => some ⟨0xF6, 0x02, 0x01⟩
  | .oneByte => some ⟨0xD5, 0x00, 0x01⟩
  | .fourByte | .variableLength | .manufacturer | .universalTeachIn => none

/-- The device that a window makes of the sender of a telegram. -/
def newcomer? (t : Telegram) (w : Window) : Option Device :=
  match carried? t with
  | some (profile, manufacturer) => some ⟨t.sender, manufacturer, profile⟩
  | none =>
      ((w.target.map Target.profile).or (usualProfile? t.rorg)).map fun profile =>
        ⟨t.sender, 0x7FF, profile⟩

variable {p : Packet} {t : Telegram} {w : Window} {q : Query}

theorem isSome_carriedProfile?_iff {payload : Bytes} {byte : UInt8}
    (hbyte : payload[3]? = some byte) (hlearn : hasBit byte 3 = false) :
    (carriedProfile? payload).isSome = true ↔ hasBit byte 7 = true := by
  match payload, hbyte with
  | db3 :: db2 :: db1 :: db0 :: rest, hbyte =>
      obtain rfl : db0 = byte := by simpa using hbyte
      cases htype : hasBit db0 7 <;>
        simp [carriedProfile?, Telegram.learnBit, carriesProfileBit, hlearn, htype]

theorem isSome_carried?_iff (hparse : Telegram.ofPacket p = .ok t) (hasks : t.isTeachIn = true) :
    (carried? t).isSome = true ↔ t.rorg = .universalTeachIn ∨
      t.rorg = .fourByte ∧ ∃ byte, t.payload[3]? = some byte ∧ hasBit byte 7 = true := by
  have hlayout := Telegram.ofPacket_eq_ok_iff.mp hparse
  unfold carried?
  cases hrorg : t.rorg with
  | fourByte =>
      have hplace : t.rorg.learnPlace? = some 3 := by rw [hrorg]; rfl
      obtain ⟨byte, hbyte⟩ := hlayout.exists_learn hplace
      have hlearn := (hlayout.isTeachIn_iff hplace hbyte).1.mp hasks
      simp [isSome_carriedProfile?_iff hbyte hlearn, hbyte]
  | universalTeachIn =>
      obtain ⟨flags, channels, low, high, variant, func, family, rest, hpayload⟩ :=
        Query.exists_form hparse hrorg
      simp [Query.ofTelegram_form hrorg hpayload]
  | rps | oneByte | variableLength | manufacturer => simp

namespace Engine

variable {e : Engine DeviceTable}

namespace Encounter

theorem outcome_of_data (h : Encounter p t w e) (hdata : t.isTeachIn = false) :
    (e.handle tableRegistry p).1 = .notTeachIn := by
  have hkind := hdata
  rw [Telegram.isTeachIn] at hkind
  rw [h.handle_eq]
  unfold handleAdmitted
  cases hcase : t.kind with
  | oneByte => simp only [hdata, Bool.false_eq_true, if_false]
  | fourByte | variableLength => rfl
  | rps | universalTeachIn | fourByteTeachIn => simp [hcase] at hkind

theorem outcome_of_asking (h : Encounter p t w e) (hasks : t.isTeachIn = true)
    (hrorg : t.rorg ≠ .universalTeachIn) :
    (e.handle tableRegistry p).1 =
      match newcomer? t w with
      | some device => if e.registry.supports device.profile then .learned device else .rejected
      | none => .noProfile := by
  have hlayout := Telegram.ofPacket_eq_ok_iff.mp h.parse
  have hkind := hlayout.kind
  rw [h.handle_eq]
  unfold handleAdmitted newcomer? carried?
  cases hfamily : t.rorg with
  | rps =>
      rw [hfamily] at hkind
      simp only [hkind, Telegram.kindOf, h.learn_fst]
      cases w.target <;> rfl
  | oneByte =>
      rw [hfamily] at hkind
      simp only [hkind, Telegram.kindOf, hasks, if_true, h.learn_fst]
      cases w.target <;> rfl
  | fourByte =>
      have hplace : t.rorg.learnPlace? = some 3 := by rw [hfamily]; rfl
      obtain ⟨byte, hbyte⟩ := hlayout.exists_learn hplace
      obtain ⟨hlearn, hteach⟩ := hlayout.isTeachIn_iff hplace hbyte
      simp only [(hteach hfamily).mpr (hlearn.mp hasks)]
      cases carriedProfile? t.payload with
      | some carried => exact h.learn_fst carried.2 carried.1
      | none =>
          cases w.target with
          | some target => exact h.learn_fst unknownManufacturer target.profile
          | none => rfl
  | variableLength | manufacturer =>
      rw [Telegram.isTeachIn, hkind, hfamily] at hasks
      simp [Telegram.kindOf] at hasks
  | universalTeachIn => exact absurd hfamily hrorg

theorem outcome_of_universal (h : Encounter p t w e) (hrorg : t.rorg = .universalTeachIn) :
    ∃ flags q, t.payload[0]? = some flags ∧ Query.ofTelegram t = .ok q ∧
      (e.handle tableRegistry p).1 =
        if flags.toNat % 16 = 0 then
          .answered (q.reply e.registry) (q.paired? t.sender (q.reply e.registry))
        else .ignored := by
  obtain ⟨flags, channels, low, high, variant, func, family, rest, hpayload⟩ :=
    Query.exists_form h.parse hrorg
  have hquery := Query.ofTelegram_form hrorg hpayload
  refine ⟨flags, _, by rw [hpayload]; rfl, hquery, ?_⟩
  by_cases hzero : flags.toNat % 16 = 0
  case pos =>
    rw [if_pos hzero, h.handle_universal hrorg]
    exact (h.replied hquery (by simpa [Query.isQuery] using hzero)).outcome
  case neg =>
    rw [if_neg hzero, h.handle_foreign hrorg hquery (by simpa [Query.isQuery] using hzero)]

end Encounter

theorem newcomer?_of_universal (hquery : Query.ofTelegram t = .ok q)
    (hrorg : t.rorg = .universalTeachIn) (w : Window) :
    newcomer? t w = some ⟨t.sender, q.manufacturer, q.profile⟩ := by
  simp [newcomer?, carried?, hrorg, hquery]

/-- What a table makes of a telegram before an open window. -/
inductive Judged (table : DeviceTable) (t : Telegram) (w : Window) : Outcome → Prop
  | data (hdata : t.isTeachIn = false) : Judged table t w .notTeachIn
  | learned (device) (hasks : t.isTeachIn = true) (hnew : newcomer? t w = some device) :
      Judged table t w (.learned device)
  | rejected (device) (hasks : t.isTeachIn = true) (hnew : newcomer? t w = some device)
      (hunlisted : table.supports device.profile = false) : Judged table t w .rejected
  | noProfile (hasks : t.isTeachIn = true) (hnew : newcomer? t w = none) :
      Judged table t w .noProfile
  | answered (code) (device) (hasks : t.isTeachIn = true) (hrorg : t.rorg = .universalTeachIn)
      (hnew : ∀ d, device = some d → newcomer? t w = some d) :
      Judged table t w (.answered code device)
  | foreign (flags) (hasks : t.isTeachIn = true) (hrorg : t.rorg = .universalTeachIn)
      (hflags : t.payload[0]? = some flags) (hcommand : flags.toNat % 16 ≠ 0) :
      Judged table t w .ignored

theorem Encounter.judged (h : Encounter p t w e) :
    Judged e.registry t w (e.handle tableRegistry p).1 := by
  cases hasks : t.isTeachIn with
  | false =>
      rw [h.outcome_of_data hasks]
      exact .data hasks
  | true =>
      by_cases hrorg : t.rorg = .universalTeachIn
      case pos =>
        obtain ⟨flags, q, hflags, hquery, houtcome⟩ := h.outcome_of_universal hrorg
        rw [houtcome]
        split
        case isTrue =>
          refine .answered _ _ hasks hrorg fun device hdevice => ?_
          rw [newcomer?_of_universal hquery hrorg, Query.eq_of_paired? hdevice]
        case isFalse hcommand => exact .foreign flags hasks hrorg hflags hcommand
      case neg =>
        rw [h.outcome_of_asking hasks hrorg]
        split
        case h_1 device hnew =>
          split
          case isTrue => exact .learned device hasks hnew
          case isFalse hunlisted =>
            exact .rejected device hasks hnew (Bool.eq_false_iff.mpr hunlisted)
        case h_2 hnew => exact .noProfile hasks hnew

namespace Judged

variable {table : DeviceTable} {outcome : Outcome}

theorem eq_notTeachIn_iff (h : Judged table t w outcome) :
    outcome = .notTeachIn ↔ t.isTeachIn = false := by
  cases h with
  | data hdata => simp [hdata]
  | learned _ hasks | rejected _ hasks | noProfile hasks | answered _ _ hasks
    | foreign _ hasks => simp [hasks]

theorem of_asking (h : Judged table t w outcome) (hasks : t.isTeachIn = true) :
    (∃ device, outcome = .learned device) ∨ outcome = .rejected ∨ outcome = .noProfile ∨
      (∃ code device, outcome = .answered code device) ∨
      outcome = .ignored ∧ t.rorg = .universalTeachIn ∧
        ∃ flags, t.payload[0]? = some flags ∧ flags.toNat % 16 ≠ 0 := by
  cases h with
  | data hdata => cases hdata.symm.trans hasks
  | learned device => exact .inl ⟨device, rfl⟩
  | rejected => exact .inr (.inl rfl)
  | noProfile => exact .inr (.inr (.inl rfl))
  | answered code device => exact .inr (.inr (.inr (.inl ⟨code, device, rfl⟩)))
  | foreign flags _ hrorg hflags hcommand =>
      exact .inr (.inr (.inr (.inr ⟨rfl, hrorg, flags, hflags, hcommand⟩)))

theorem newcomer?_of_created (h : Judged table t w outcome) {device : Device}
    (hcreated : outcome.created? = some device) : newcomer? t w = some device := by
  cases h with
  | data | rejected | noProfile | foreign => cases hcreated
  | learned _ _ hnew =>
      cases hcreated
      exact hnew
  | answered _ _ _ _ hnew => exact hnew device hcreated

theorem eq_learned (h : Judged table t w outcome) (hasks : t.isTeachIn = true)
    (hrorg : t.rorg ≠ .universalTeachIn) {device : Device} (hnew : newcomer? t w = some device)
    (hlisted : table.supports device.profile = true) : outcome = .learned device := by
  cases h with
  | data hdata => cases hdata.symm.trans hasks
  | learned _ _ hother => cases hother.symm.trans hnew; rfl
  | rejected _ _ hother hunlisted =>
      cases hother.symm.trans hnew
      cases hunlisted.symm.trans hlisted
  | noProfile _ hother => cases hother.symm.trans hnew
  | answered _ _ _ huniversal | foreign _ _ huniversal => exact absurd huniversal hrorg

end Judged

/--
A telegram of an unknown sender before an open window is reported as not for teach-in exactly if
it does not ask for it.  One that asks is learned, rejected, without a profile or answered; only a
universal teach-in telegram with a command other than zero is ignored.  The device that is learned is
the newcomer: what the telegram carries, which queries and four-byte telegrams with the type bit do,
else with the profile of the target, else with the usual one of its family.  Queries apart, every
newcomer with a listed profile is learned.
-/
theorem views_agree (h : Encounter p t w e) :
    let outcome := (e.handle tableRegistry p).1
    (outcome = .notTeachIn ↔ t.isTeachIn = false) ∧
      (t.isTeachIn = true →
        (∃ device, outcome = .learned device) ∨ outcome = .rejected ∨ outcome = .noProfile ∨
          (∃ code device, outcome = .answered code device) ∨
          outcome = .ignored ∧ t.rorg = .universalTeachIn ∧
            ∃ flags, t.payload[0]? = some flags ∧ flags.toNat % 16 ≠ 0) ∧
      (t.isTeachIn = true → ((carried? t).isSome = true ↔ t.rorg = .universalTeachIn ∨
        t.rorg = .fourByte ∧ ∃ byte, t.payload[3]? = some byte ∧ hasBit byte 7 = true)) ∧
      (∀ device, outcome.created? = some device → newcomer? t w = some device) ∧
      ∀ device, t.isTeachIn = true → t.rorg ≠ .universalTeachIn → newcomer? t w = some device →
        e.registry.supports device.profile = true → outcome = .learned device := by
  have hjudged := h.judged
  exact ⟨hjudged.eq_notTeachIn_iff, hjudged.of_asking, isSome_carried?_iff h.parse,
    fun _ => hjudged.newcomer?_of_created,
    fun _ hasks hrorg => hjudged.eq_learned hasks hrorg⟩

theorem views_agree_carried :
    let sender : Address := ⟨0x01, 0x80, 0x2A, 0x3B⟩
    let p := Packet.sealed .radio
      [0xA5, 0x08, 0x28, 0x46, 0x80, 0x01, 0x80, 0x2A, 0x3B, 0x00] []
    let t : Telegram :=
      ⟨.fourByteTeachIn, .fourByte, [0x08, 0x28, 0x46, 0x80], sender, 0x00, []⟩
    let w : Window := ⟨Instant.after 0 (Span.ofSeconds 60), some ⟨sender, Profile.contact⟩⟩
    let e : Engine DeviceTable :=
      { registry := {}, state := ⟨some w.deadline, w.target⟩, observers := [.recorder "panel"] }
    let device : Device := ⟨sender, 0x046, ⟨0xA5, 0x02, 0x05⟩⟩
    Encounter p t w e ∧ newcomer? t w = some device ∧
      (e.handle tableRegistry p).1 = .learned device := by
  intro sender p t w e device
  have h : Encounter p t w e := ⟨rfl, rfl, rfl, rfl, rfl⟩
  have hnew : newcomer? t w = some device := rfl
  obtain ⟨-, -, -, -, hlearned⟩ := views_agree h
  exact ⟨h, hnew, hlearned device rfl (by decide) hnew (by decide)⟩

end Engine

end Esp3Host.TeachIn
