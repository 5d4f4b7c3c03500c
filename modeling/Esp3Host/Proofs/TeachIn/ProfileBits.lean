import Esp3Host.Proofs.TeachIn.Encounter
import Esp3Host.Proofs.Telegram.Layout

/-!
# Profiles in four-byte teach-in telegrams

A four-byte telegram tells its function in six bits, its type in seven and its manufacturer in
eleven, which share three bytes.  `carriedProfile?` reads exactly the payloads that begin with such
bytes, so it tells different ones apart, and a window takes a device in as what it tells.
-/

namespace Esp3Host.TeachIn

def profileBytes (func variant manufacturer : Nat) : Bytes :=
  [UInt8.ofNat (func <<< 2 ||| variant >>> 5),
    UInt8.ofNat ((variant &&& 31) <<< 3 ||| manufacturer >>> 8),
    UInt8.ofNat (manufacturer &&& 255)]

/-! ## Reading the bits -/

section

variable {func variant manufacturer : Nat} {payload : Bytes} {profile : Profile} {last : UInt8}

theorem profileBytes_eq (hvariant : variant < 128) (hmanufacturer : manufacturer < 2048) :
    profileBytes func variant manufacturer =
      [UInt8.ofNat (func * 4 + variant / 32),
        UInt8.ofNat (variant % 32 * 8 + manufacturer / 256), UInt8.ofNat (manufacturer % 256)] := by
  have hupper : variant >>> 5 = variant / 32 := Nat.shiftRight_eq_div_pow variant 5
  have hlower : variant &&& 31 = variant % 32 := Nat.and_two_pow_sub_one_eq_mod variant 5
  have hhigh : manufacturer >>> 8 = manufacturer / 256 := Nat.shiftRight_eq_div_pow manufacturer 8
  have hlow : manufacturer &&& 255 = manufacturer % 256 :=
    Nat.and_two_pow_sub_one_eq_mod manufacturer 8
  rw [profileBytes, hupper, hlower, hhigh, hlow,
    ← Nat.shiftLeft_add_eq_or_of_lt (show variant / 32 < 2 ^ 2 by omega),
    ← Nat.shiftLeft_add_eq_or_of_lt (show manufacturer / 256 < 2 ^ 3 by omega),
    Nat.shiftLeft_eq, Nat.shiftLeft_eq]

theorem carriedProfile?_profileBytes (hfunc : func < 64) (hvariant : variant < 128)
    (hmanufacturer : manufacturer < 2048) (htype : hasBit last 7 = true)
    (hlearn : hasBit last 3 = false) (more : Bytes) :
    carriedProfile? (profileBytes func variant manufacturer ++ last :: more) =
      some (⟨0xA5, UInt8.ofNat func, UInt8.ofNat variant⟩, manufacturer) := by
  have hthird : (func * 4 + variant / 32) % 256 / 4 = func := by omega
  have hsecond : (func * 4 + variant / 32) % 256 % 4 * 32 +
      (variant % 32 * 8 + manufacturer / 256) % 256 / 8 = variant := by omega
  have hfirst : (variant % 32 * 8 + manufacturer / 256) % 256 % 8 * 256 +
      manufacturer % 256 % 256 = manufacturer := by omega
  rw [profileBytes_eq hvariant hmanufacturer]
  simp only [List.cons_append, List.nil_append, carriedProfile?, Telegram.learnBit, hlearn,
    carriesProfileBit, htype, Bool.not_true, Bool.or_false, Bool.false_eq_true, if_false,
    UInt8.toNat_ofNat', Nat.reducePow, hthird, hsecond, hfirst, Rorg.code]

theorem profileBytes_fields (third second first : UInt8) :
    profileBytes (third.toNat / 4) (third.toNat % 4 * 32 + second.toNat / 8)
      (second.toNat % 8 * 256 + first.toNat) = [third, second, first] := by
  have hsecond := second.toNat_lt
  have hfirst := first.toNat_lt
  have hthird' : third.toNat / 4 * 4 + (third.toNat % 4 * 32 + second.toNat / 8) / 32 =
      third.toNat := by omega
  have hsecond' : (third.toNat % 4 * 32 + second.toNat / 8) % 32 * 8 +
      (second.toNat % 8 * 256 + first.toNat) / 256 = second.toNat := by omega
  have hfirst' : (second.toNat % 8 * 256 + first.toNat) % 256 = first.toNat := by omega
  rw [profileBytes_eq (by omega) (by omega), hthird', hsecond', hfirst', UInt8.ofNat_toNat,
    UInt8.ofNat_toNat, UInt8.ofNat_toNat]

theorem fields_of_carriedProfile? (h : carriedProfile? payload = some (profile, manufacturer)) :
    profile.rorg = 0xA5 ∧ profile.func < 64 ∧ profile.variant < 128 ∧ manufacturer < 2048 ∧
      payload.take 3 = profileBytes profile.func.toNat profile.variant.toNat manufacturer := by
  unfold carriedProfile? at h
  split at h
  case h_2 => cases h
  case h_1 third second first last more =>
    split at h
    case isTrue => cases h
    case isFalse =>
      cases h
      have hthird := third.toNat_lt
      have hsecond := second.toNat_lt
      have hfirst := first.toNat_lt
      have hfunc : (UInt8.ofNat (third.toNat / 4)).toNat = third.toNat / 4 := by
        rw [UInt8.toNat_ofNat']
        omega
      have hvariant : (UInt8.ofNat (third.toNat % 4 * 32 + second.toNat / 8)).toNat =
          third.toNat % 4 * 32 + second.toNat / 8 := by
        rw [UInt8.toNat_ofNat']
        omega
      refine ⟨rfl, UInt8.lt_iff_toNat_lt.mpr ?_, UInt8.lt_iff_toNat_lt.mpr ?_, by omega, ?_⟩
      · rw [hfunc]
        change _ < 64
        omega
      · rw [hvariant]
        change _ < 128
        omega
      · rw [hfunc, hvariant, profileBytes_fields]
        rfl

end

/-! ## Learning what is told -/

/--
What a device tells of itself in a four-byte telegram for teach-in; `last` is the fourth byte.
-/
structure Introduction where
  func : Nat
  func_lt : func < 64
  variant : Nat
  variant_lt : variant < 128
  manufacturer : Nat
  manufacturer_lt : manufacturer < 2048
  last : UInt8
  type_bit : hasBit last 7 = true
  learn_bit : hasBit last 3 = false
  more : Bytes
  sender : Address
  status : UInt8

namespace Introduction

variable (i : Introduction)

def payload : Bytes := profileBytes i.func i.variant i.manufacturer ++ i.last :: i.more

def data : Bytes := 0xA5 :: i.payload ++ i.sender.toBytes ++ [i.status]

def profile : Profile := ⟨0xA5, UInt8.ofNat i.func, UInt8.ofNat i.variant⟩

def device : Device := ⟨i.sender, i.manufacturer, i.profile⟩

def telegram (optional : Bytes) : Telegram :=
  ⟨.fourByteTeachIn, .fourByte, i.payload, i.sender, i.status, optional⟩

theorem carriedProfile?_payload : carriedProfile? i.payload = some (i.profile, i.manufacturer) :=
  carriedProfile?_profileBytes i.func_lt i.variant_lt i.manufacturer_lt i.type_bit i.learn_bit
    i.more

theorem layout_telegram {p : Packet} (hkind : p.kind = .radio) (hdata : p.data = i.data) :
    Telegram.Layout p (i.telegram p.optional) where
  radio := hkind
  data := by simp [hdata, data, telegram, Rorg.code]
  payload := by simp [telegram, payload, profileBytes, Rorg.minPayload]
  kind := by
    simp [telegram, payload, profileBytes, Telegram.kindOf, Telegram.learnBit, i.learn_bit]
  optional := rfl

end Introduction

namespace Engine

variable {e : Engine DeviceTable} {p : Packet} {w : Window} {i : Introduction}

theorem learn_of_welcomes {t : Telegram} {manufacturer : Nat} {profile : Profile}
    (h : e.Welcomes ⟨t.sender, manufacturer, profile⟩) :
    ∃ after, e.learn tableRegistry t manufacturer profile =
        (.learned ⟨t.sender, manufacturer, profile⟩, after) ∧
      after.registry = { e.registry with
        devices := e.registry.devices ++ [⟨t.sender, manufacturer, profile⟩] } := by
  obtain ⟨after, hregister, haside⟩ := register_of_welcomes h
  refine ⟨after, ?_, haside.registry_eq⟩
  rw [learn, hregister]

theorem handle_introduction (h : Encounter p (i.telegram p.optional) w e)
    (hlisted : e.registry.supports i.profile = true) :
    ∃ after, e.handle tableRegistry p = (.learned i.device, after) ∧
      after.registry = { e.registry with devices := e.registry.devices ++ [i.device] } := by
  obtain ⟨after, hlearn, hregistry⟩ := learn_of_welcomes (h.welcomes hlisted i.manufacturer)
  refine ⟨after, ?_, hregistry⟩
  rw [h.handle_eq]
  simp only [handleAdmitted, Introduction.telegram, i.carriedProfile?_payload]
  exact hlearn

/--
A device that introduces itself in a four-byte telegram, however much follows the four bytes, and is
admitted by the window and unknown to a table that lists its profile, is learned and entered into
the table with the address, the manufacturer and the profile that it tells.  The other way round,
the first three bytes of a payload are those of the profile and the manufacturer that it carries, so
payloads that differ in them never carry the same.
-/
theorem profile_bits_exact :
    (∀ (i : Introduction) (p : Packet) (w : Window) (e : Engine DeviceTable),
      p.kind = .radio → p.data = i.data → e.window = some w → w.expired e.clock = false →
      w.admits i.sender = true → e.registry.find? i.sender = none →
      i.profile ∈ e.registry.profiles → ∃ after,
        e.handle tableRegistry p = (.learned i.device, after) ∧
        after.registry = { e.registry with devices := e.registry.devices ++ [i.device] }) ∧
      (∀ payload profile manufacturer, carriedProfile? payload = some (profile, manufacturer) →
        profile.rorg = 0xA5 ∧ profile.func < 64 ∧ profile.variant < 128 ∧ manufacturer < 2048 ∧
          payload.take 3 = profileBytes profile.func.toNat profile.variant.toNat manufacturer) ∧
      ∀ payload other carried, carriedProfile? payload = some carried →
        carriedProfile? other = some carried → payload.take 3 = other.take 3 := by
  refine ⟨fun i p w e hkind hdata hwindow hearly hadmits hunknown hlisted => ?_,
    fun _ _ _ => fields_of_carriedProfile?, ?_⟩
  · have hparse := Telegram.ofPacket_of_layout (i.layout_telegram hkind hdata)
    exact handle_introduction ⟨hparse, hunknown, hwindow, hearly, hadmits⟩
      (by simpa [DeviceTable.supports] using hlisted)
  · rintro payload other ⟨profile, manufacturer⟩ hpayload hother
    obtain ⟨-, -, -, -, hbytes⟩ := fields_of_carriedProfile? hpayload
    obtain ⟨-, -, -, -, hothers⟩ := fields_of_carriedProfile? hother
    rw [hbytes, hothers]

theorem profile_bits_exact_sensor :
    let sender : Address := ⟨0x01, 0x80, 0x2A, 0x3B⟩
    let p := Packet.sealed .radio
      [0xA5, 0x41, 0x37, 0xFF, 0x80, 0x08, 0x01, 0x80, 0x2A, 0x3B, 0x00] []
    let w : Window := ⟨Instant.after 0 (Span.ofSeconds 60), some ⟨sender, Profile.contact⟩⟩
    let device : Device := ⟨sender, 0x7FF, ⟨0xA5, 0x10, 0x26⟩⟩
    let e : Engine DeviceTable :=
      { registry := { profiles := [device.profile] }, state := ⟨some w.deadline, w.target⟩ }
    ∃ after, e.handle tableRegistry p = (.learned device, after) ∧
      after.registry.devices = [device] ∧
      carriedProfile? [0x41, 0x37, 0xFF, 0x80, 0x08] = some (device.profile, 0x7FF) ∧
      [0x41, 0x37, 0xFF] = profileBytes 0x10 0x26 0x7FF := by
  intro sender p w device e
  let i : Introduction :=
    { func := 0x10, func_lt := by decide, variant := 0x26, variant_lt := by decide
      manufacturer := 0x7FF, manufacturer_lt := by decide, last := 0x80, type_bit := rfl
      learn_bit := rfl, more := [0x08], sender, status := 0x00 }
  have hcarried : carriedProfile? [0x41, 0x37, 0xFF, 0x80, 0x08] =
      some (device.profile, 0x7FF) := rfl
  obtain ⟨hlearned, hbits, -⟩ := profile_bits_exact
  obtain ⟨after, hhandle, hregistry⟩ := hlearned i p w e rfl (by decide) rfl rfl rfl rfl (by decide)
  obtain ⟨-, -, -, -, hbytes⟩ := hbits _ _ _ hcarried
  exact ⟨after, hhandle, congrArg DeviceTable.devices hregistry, hcarried, hbytes⟩

end Engine

end Esp3Host.TeachIn
