import Esp3Host.CommandLine.Reading
import Esp3Host.Program.Session
import Esp3Host.Settings.Reading
import Esp3Host.Settings.Text

/-!
# From a command line to a session

The settings come from a file, which may be missing or faulty: then the standard ones hold, and a
complaint is made.  Everything that can be refused before the port is opened is refused here.
-/

namespace Esp3Host.Program

def versionText : String := "enocean-link 0.3.0"

def refusalCode : CommandLine.Refusal → Nat
  | .help | .version => 0
  | _ => 2

def refusalOutputs : CommandLine.Refusal → List Output
  | .version => [.result versionText]
  | _ => []

def failure (message : String) : Output := .complaint s!"Error: {message}"

structure Plan where
  settings : Settings
  complaints : List Output
  threshold : Threshold
  logFile : Option String

def plan (invocation : CommandLine.Invocation) (content : Except PathFault ByteArray) : Plan :=
  let loaded := Settings.load content
  let settings := loaded.toOption.getD Settings.standard
  let logging := loaded.toOption.map Settings.logging
  { settings := match invocation.port with
      | some port => { settings with serial := { settings.serial with port } }
      | none => settings
    complaints := match loaded with
      | .error e => [.complaint (e.message invocation.config ++ " (using defaults)")]
      | .ok _ => []
    threshold := threshold invocation.verbosity (logging.map LoggingSettings.level)
    logFile := logging.bind LoggingSettings.file }

inductive Job where
  | monitor (seconds : Option Nat)
  | learn (timeout : Span) (target : Option TeachIn.Target)
  | ask
  deriving DecidableEq, Repr

/-- The device that a teach-in is meant for; both its address and its profile have to be given. -/
def targetOf (id : Option String) (profile : Option Profile) :
    Except String (Option TeachIn.Target) :=
  match id, profile with
  | some id, some profile =>
      match Address.read id with
      | .ok address => .ok (some ⟨address, profile⟩)
      | .error cause => .error (Address.readMessage id cause)
  | _, _ => .ok none

def jobOf (settings : Settings) : CommandLine.Command → Except String (Option Job)
  | .init => .ok none
  | .monitor seconds => .ok (some (.monitor seconds))
  | .teachIn timeout id profile => do
      let target ← targetOf id profile
      return some (.learn ((timeout.map Span.ofSeconds).getD settings.teachInTimeout) target)
  | .version => .ok (some .ask)

def connecting (serial : SerialSettings) : List Output :=
  [ .log .info s!"Connecting to transceiver on {serial.port} at {serial.baudRate} baud",
    .log .debug s!"Opening serial port {serial.port} at {serial.baudRate} baud" ]

def connected (settings : Settings) : List Output :=
  let tuning := settings.tuning
  [ .log .info s!"Serial port {settings.serial.port} open",
    .log .info
      (s!"Link started (response timeout {tuning.responseTimeout.text},"
        ++ s!" {tuning.attempts} attempts)"),
    .progress "Starting transmit task",
    .progress "Starting delivery task",
    .progress "Starting serial reader task" ]

def Job.session (job : Job) (settings : Settings) : Session :=
  let session := match job with
    | .monitor seconds => Session.monitor settings seconds
    | .learn timeout target => Session.learn settings timeout target
    | .ask => Session.ask settings
  { session with outputs := connected settings ++ session.outputs }

end Esp3Host.Program
