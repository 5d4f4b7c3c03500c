import Esp3Host.Host
import Esp3Host.Proofs.TeachIn.Deadline
import Esp3Host.Proofs.Text.Spelling
import Esp3Host.Settings.Basic

/-!
# Settings are followed as they are written

A link raises a budget of no attempts to one, and a window is cut down to the longest one.  Settings
that pass their check meet neither: `Settings.Followed` says of the link and of the teach-in engine
what they do with the settings, and the check accepts exactly the settings of which it holds.
-/

namespace Esp3Host

open TeachIn (Engine Registry Target Window)

/-! ## Windows of a length -/

namespace TeachIn

/-- Whoever asks for a window of this length while there is none gets one that lasts so long. -/
def Window.Granted (requested length : Span) : Prop :=
  ∀ {σ : Type} (reg : Registry σ) (e : Engine σ) (target : Option Target), e.window = none →
    (e.openWindow requested target).1 = true ∧
      (¬Engine.Interfered reg true e (e.openWindow requested target).2 →
        (e.openWindow requested target).2.window = some ⟨e.clock.after length, target⟩)

theorem Engine.openWindow_of_closed {σ : Type} {e : Engine σ} (hclosed : e.window = none)
    (length : Span) (target : Option Target) : (e.openWindow length target).1 = true := by
  have hnotopen : e.isOpen = false := by simp [isOpen, hclosed]
  obtain ⟨next, hopened, -⟩ := openWith_of_closed (performTo e.nesting) hnotopen length target
  exact congrArg Prod.fst hopened

theorem Window.granted_min (requested : Span) :
    Granted requested (min requested maxLength) := by
  intro σ reg e target hclosed
  have hopened := Engine.openWindow_of_closed hclosed requested target
  exact ⟨hopened, Engine.window_openWindow hopened⟩

theorem Window.Granted.unique {requested first second : Span} (hfirst : Granted requested first)
    (hsecond : Granted requested second) : first = second := by
  -- one engine with no observers tells the two lengths apart
  let e : Engine DeviceTable := { registry := {} }
  have hpassive : Engine.Passive tableRegistry true e := ⟨⟨nofun, nofun⟩, nofun⟩
  have hleft : ¬Engine.Interfered tableRegistry true e (e.openWindow requested none).2 :=
    fun h => h.1 hpassive
  have hwindows := ((hfirst tableRegistry e none rfl).2 hleft).symm.trans
    ((hsecond tableRegistry e none rfl).2 hleft)
  simp only [Option.some.injEq, Window.mk.injEq, and_true, Instant.after] at hwindows
  exact Int.ofNat_inj.mp (Int.add_left_cancel hwindows)

theorem Window.granted_iff {requested : Span} :
    Granted requested requested ↔ requested ≤ maxLength := by
  constructor
  · intro h
    exact min_eq_left_iff.mp (Granted.unique (granted_min requested) h)
  · intro h
    have hgranted : Granted requested (min requested maxLength) := granted_min requested
    rwa [min_eq_left h] at hgranted

end TeachIn

/-! ## Links with a budget -/

theorem Link.sendLow_start (tuning : Tuning) (p : Packet) :
    ((Link.start tuning).send .low p).sendLow = [⟨p, max 1 tuning.attempts⟩] := rfl

namespace Settings

variable {s : Settings}

theorem refused_or_eq_ok_iff {ε : Type} {fault : Prop} [Decidable fault] {cause : ε}
    {others : Except ε Unit} :
    (if fault then .error cause else others) = .ok () ↔ ¬fault ∧ others = .ok () := by
  split <;> simp [*]

theorem check_eq_ok_iff :
    s.check = .ok () ↔ Text.trim s.serial.port.toList ≠ [] ∧ s.link.attempts ≠ 0 ∧
      s.link.responseTimeoutMillis ≠ 0 ∧
      (s.link.transmitCycleMillis ≠ 0 ∧ s.link.deliveryCycleMillis ≠ 0) ∧
      s.teachIn.timeoutSeconds ≠ 0 ∧ s.teachIn.timeoutSeconds ≤ Window.maxLength.seconds := by
  simp only [check, refused_or_eq_ok_iff, List.isEmpty_iff, not_or, Nat.not_lt, and_true, ne_eq]

/-- What a host with these settings does with them. -/
structure Followed (s : Settings) : Prop where
  port : ∃ c ∈ s.serial.port.toList, Text.isBlank c = false
  attempts : ∀ p, ((Link.start s.tuning).send .low p).sendLow = [⟨p, s.link.attempts⟩]
  responseTimeout : 0 < (Link.start s.tuning).tuning.responseTimeout
  transmitCycle : 0 < (Link.start s.tuning).tuning.transmitCycle
  deliveryCycle : 0 < (Link.start s.tuning).tuning.deliveryCycle
  seconds : 1 ≤ s.teachIn.timeoutSeconds
  window : Window.Granted s.teachInTimeout (Span.ofSeconds s.teachIn.timeoutSeconds)

theorem port_iff :
    Text.trim s.serial.port.toList ≠ [] ↔
      ∃ c ∈ s.serial.port.toList, Text.isBlank c = false := by
  rw [ne_eq, Text.trim_eq_nil_iff]
  simp

theorem attempts_iff :
    s.link.attempts ≠ 0 ↔
      ∀ p, ((Link.start s.tuning).send .low p).sendLow = [⟨p, s.link.attempts⟩] := by
  simp only [Link.sendLow_start, tuning, List.cons.injEq, Item.mk.injEq, and_true, true_and]
  constructor
  · intro h _
    omega
  · intro h
    have hbudget := h (Packet.sealed .event [] [])
    omega

theorem ofMillis_pos_iff {millis : Nat} : 0 < Span.ofMillis millis ↔ millis ≠ 0 := by
  simp only [Span, Span.ofMillis]
  omega

theorem window_iff :
    s.teachIn.timeoutSeconds ≤ Window.maxLength.seconds ↔
      Window.Granted s.teachInTimeout (Span.ofSeconds s.teachIn.timeoutSeconds) := by
  rw [teachInTimeout, Window.granted_iff]
  simp only [Span, Window.maxLength, Span.ofSeconds, Span.seconds]
  omega

theorem check_eq_ok_iff_followed : s.check = .ok () ↔ s.Followed := by
  rw [check_eq_ok_iff]
  constructor
  · rintro ⟨hport, hattempts, htimeout, ⟨htransmit, hdelivery⟩, hseconds, hwindow⟩
    exact {
      port := port_iff.mp hport
      attempts := attempts_iff.mp hattempts
      responseTimeout := ofMillis_pos_iff.mpr htimeout
      transmitCycle := ofMillis_pos_iff.mpr htransmit
      deliveryCycle := ofMillis_pos_iff.mpr hdelivery
      seconds := Nat.one_le_iff_ne_zero.mpr hseconds
      window := window_iff.mp hwindow }
  · intro h
    exact ⟨port_iff.mpr h.port, attempts_iff.mpr h.attempts,
      ofMillis_pos_iff.mp h.responseTimeout,
      ⟨ofMillis_pos_iff.mp h.transmitCycle, ofMillis_pos_iff.mp h.deliveryCycle⟩,
      Nat.one_le_iff_ne_zero.mp h.seconds, window_iff.mpr h.window⟩

/-! ## The device table -/

theorem supports_deviceTable_iff {profile : Profile} :
    s.deviceTable.supports profile = true ↔
      profile ∈ s.teachIn.profiles ∨
        s.teachIn.profiles = [] ∧ profile ∈ Profile.knownProfiles := by
  unfold deviceTable
  split
  case isTrue hnone =>
    have hempty : s.teachIn.profiles = [] := List.isEmpty_iff.mp hnone
    simp [DeviceTable.supports, hempty]
  case isFalse hsome =>
    have hne : s.teachIn.profiles ≠ [] := fun h => hsome (List.isEmpty_iff.mpr h)
    simp [DeviceTable.supports, hne]

/--
The settings that pass their check are those that are followed as they are written: the port is
named, a packet gets the budget of the settings, all times are positive and a window lasts exactly
as many seconds as it should, one at least.  For all settings, the device table accepts the profiles
that they list, or the known ones if they list none.
-/
theorem checked_iff_followed (s : Settings) :
    (s.check = .ok () ↔ s.Followed) ∧
      ∀ profile, s.deviceTable.supports profile = true ↔
        profile ∈ s.teachIn.profiles ∨
          s.teachIn.profiles = [] ∧ profile ∈ Profile.knownProfiles :=
  ⟨check_eq_ok_iff_followed, fun _ => supports_deviceTable_iff⟩

theorem checked_iff_followed_for_a_day :
    let day : Settings := { Settings.standard with teachIn := { timeoutSeconds := 86400 } }
    let longer : Settings := { Settings.standard with teachIn := { timeoutSeconds := 86401 } }
    day.Followed ∧ ¬longer.Followed ∧ day.deviceTable.supports Profile.contact = true := by
  intro day longer
  refine ⟨(checked_iff_followed day).1.mp (by decide +kernel), ?_,
    ((checked_iff_followed day).2 Profile.contact).mpr (.inr ⟨rfl, by decide⟩)⟩
  intro hfollowed
  have hchecked := (checked_iff_followed longer).1.mpr hfollowed
  have hrefused : longer.check = .error .windowOutOfRange := by decide +kernel
  cases hrefused.symm.trans hchecked

end Settings

end Esp3Host
