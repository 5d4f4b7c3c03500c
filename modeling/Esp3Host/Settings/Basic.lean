import Esp3Host.Device
import Esp3Host.Link.Tuning
import Esp3Host.TeachIn.Notice

/-!
# Settings

What a user may set: the transceiver's port, the tuning of the link, teach-in and logging.
`Settings.check` refuses settings that could not be followed as they are written.
-/

namespace Esp3Host

structure SerialSettings where
  port : String
  baudRate : Nat := 57600
  deriving DecidableEq, Repr

structure LinkSettings where
  responseTimeoutMillis : Nat := 500
  attempts : Nat := 3
  transmitCycleMillis : Nat := 20
  deliveryCycleMillis : Nat := 20
  unobserved : UnobservedPolicy := .drop
  deriving DecidableEq, Repr

/-- A list of no profiles stands for all known ones. -/
structure TeachInSettings where
  timeoutSeconds : Nat := 60
  profiles : List Profile := []
  deriving DecidableEq, Repr

structure LoggingSettings where
  level : String
  file : Option String := none
  deriving DecidableEq, Repr

structure Settings where
  serial : SerialSettings
  link : LinkSettings := {}
  teachIn : TeachInSettings := {}
  logging : LoggingSettings
  deriving DecidableEq, Repr

inductive SettingsFault where
  | blankPort
  | noAttempts
  | noResponseTimeout
  | noCycle
  | windowOutOfRange
  deriving DecidableEq, Repr

def SettingsFault.message : SettingsFault → String
  | blankPort => "serial.port must not be empty"
  | noAttempts => "link.max_attempts must be at least 1"
  | noResponseTimeout => "link.response_timeout_ms must be positive"
  | noCycle => "link cycle intervals must be positive"
  | windowOutOfRange =>
      s!"teach_in.default_timeout_secs must be between 1 and {TeachIn.Window.maxLength.seconds}"

namespace Settings

def standard : Settings where
  serial := { port := "/dev/ttyUSB0" }
  teachIn := { profiles := Profile.knownProfiles }
  logging := { level := "info" }

/-- Refuse settings for the first fault they have. -/
def check (s : Settings) : Except SettingsFault Unit :=
  if (Text.trim s.serial.port.toList).isEmpty then .error .blankPort
  else if s.link.attempts = 0 then .error .noAttempts
  else if s.link.responseTimeoutMillis = 0 then .error .noResponseTimeout
  else if s.link.transmitCycleMillis = 0 ∨ s.link.deliveryCycleMillis = 0 then .error .noCycle
  else if s.teachIn.timeoutSeconds = 0
      ∨ TeachIn.Window.maxLength.seconds < s.teachIn.timeoutSeconds then .error .windowOutOfRange
  else .ok ()

def tuning (s : Settings) : Tuning where
  responseTimeout := Span.ofMillis s.link.responseTimeoutMillis
  attempts := s.link.attempts
  transmitCycle := Span.ofMillis s.link.transmitCycleMillis
  deliveryCycle := Span.ofMillis s.link.deliveryCycleMillis
  unobserved := s.link.unobserved

def teachInTimeout (s : Settings) : Span := Span.ofSeconds s.teachIn.timeoutSeconds

def deviceTable (s : Settings) : DeviceTable :=
  if s.teachIn.profiles.isEmpty then {} else { profiles := s.teachIn.profiles }

end Settings

end Esp3Host
