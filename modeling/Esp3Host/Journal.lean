import Esp3Host.Link.Tuning
import Esp3Host.Packet.Wire
import Esp3Host.TeachIn.Notice
import Esp3Host.Telegram

/-!
# Journal

Everything that the host lets an outsider see beside its state: log notes, and the calls that
listeners and observers get, in the order in which they happen.
-/

namespace Esp3Host

/-! ## Log notes -/

inductive Level where
  | error
  | warn
  | info
  | debug
  | trace
  deriving DecidableEq, Repr

namespace Level

def name : Level → String
  | error => "ERROR"
  | warn => "WARN"
  | info => "INFO"
  | debug => "DEBUG"
  | trace => "TRACE"

def rank : Level → Nat
  | error => 1
  | warn => 2
  | info => 3
  | debug => 4
  | trace => 5

end Level

inductive DeviceNote where
  | refused (profile : Profile) (address : Address)
  | registered (device : Device)
  deriving DecidableEq, Repr

inductive Note where
  | queueing (kind : PacketKind) (length : Nat) (priority : Priority)
  | frameDropped (cause : FramingError) (pending : Nat)
  | chunkRead (chunk : Bytes)
  | received (packet : Packet)
  | responseUnasked
  | receivedQueued (kind : PacketKind) (length : Nat) (priority : Priority)
  | written (frame : Bytes)
  | writeFailed (kind : PacketKind)
  | answered (kind : PacketKind) (after : Span)
  | resending (timeout : Span) (attemptsLeft : Nat)
  | givenUp (packet : Packet)
  | exhausted (packet : Packet)
  | unobserved (count : Nat)
  | registry (note : DeviceNote)
  | alreadyOpen
  | windowClamped (asked : Span)
  | windowOpened (target : Option TeachIn.Target) (asked : Span)
  | windowClosed
  | windowExpired
  | telegramUnusable (cause : TelegramError)
  | notLearning (kind : TelegramKind) (sender : Address)
  | notTarget (sender target : Address)
  | noProfile (sender : Address)
  | dataTelegram (sender : Address)
  | closedMeanwhile (sender : Address)
  | learned (sender : Address) (profile : Profile) (kind : TelegramKind)
  | learningFailed (sender : Address) (profile : Profile) (cause : DeviceError)
  | queryMalformed (sender : Address) (cause : TelegramError)
  | answerIgnored (sender : Address)
  | queryRefused (sender : Address) (profile : Profile)
  deriving DecidableEq, Repr

namespace Note

def level : Note → Level
  | chunkRead _ | received _ => .trace
  | frameDropped _ _ | givenUp _ | exhausted _ | windowClamped _ | learningFailed _ _ _
  | queryMalformed _ _ => .warn
  | writeFailed _ => .error
  | registry (.registered _) | windowOpened _ _ | windowClosed | windowExpired | noProfile _
  | learned _ _ _ | queryRefused _ _ => .info
  | _ => .debug

/-- The text of a note.  How long a packet was queued that is given up is left open. -/
def text : Note → String
  | queueing kind length priority =>
      s!"Queueing {kind.name} packet ({length} bytes) at {priority.name} priority"
  | frameDropped cause pending =>
      s!"Dropping malformed frame: {cause.message} (pending {pending} bytes)"
  | chunkRead chunk => s!"RX {chunk.length} bytes: {Hex.snippet 64 chunk}"
  | received packet => s!"RX {packet.text}"
  | responseUnasked => "RESPONSE with no exchange outstanding"
  | receivedQueued kind length priority =>
      s!"Queueing received {kind.name} ({length} data bytes) as {priority.name}"
  | written frame => s!"TX {frame.length} bytes: {Hex.snippet 32 frame}"
  | writeFailed kind => s!"Write of {kind.name} failed: sink closed"
  | answered kind after => s!"{kind.name} answered after {after.text}"
  | resending timeout attemptsLeft =>
      s!"No response within {timeout.text}, resending ({attemptsLeft} attempts left)"
  | givenUp packet => s!"Max attempts reached for {packet.text} queued ? ago, giving up"
  | exhausted packet => s!"Discarding {packet.text}: no attempts left"
  | unobserved count => s!"No listeners; discarded {count} received packet(s)"
  | registry (.refused profile address) =>
      s!"Refusing {profile.text} for {address.text}: profile not supported"
  | registry (.registered device) =>
      s!"Registered device {device.address.text} ({device.profile.text},"
        ++ s!" manufacturer 0x{Hex.number 3 device.manufacturer})"
  | alreadyOpen => "Teach-in already enabled"
  | windowClamped asked =>
      s!"Teach-in timeout {asked.text} clamped to {TeachIn.Window.maxLength.text}"
  | windowOpened none asked => s!"Teach-in enabled for {asked.text}"
  | windowOpened (some target) asked =>
      s!"Teach-in enabled for {target.address.text} ({target.profile.text}) for {asked.text}"
  | windowClosed => "Teach-in disabled"
  | windowExpired => "Teach-in window expired"
  | telegramUnusable cause => s!"Not a usable radio telegram: {cause.message}"
  | notLearning kind sender =>
      s!"Ignoring {kind.name} telegram from unknown {sender.text}: teach-in disabled"
  | notTarget sender target => s!"Ignoring {sender.text}: teach-in restricted to {target.text}"
  | noProfile sender =>
      s!"4BS teach-in from {sender.text} without profile: bidirectional teach-in unsupported"
  | dataTelegram sender => s!"Data telegram from unknown {sender.text} while teaching in"
  | closedMeanwhile sender => s!"Teach-in window closed before {sender.text} could be learned"
  | learned sender profile kind => s!"Learned {sender.text} as {profile.text} via {kind.name}"
  | learningFailed sender profile cause =>
      s!"Teach-in of {sender.text} as {profile.text} failed: {cause.message}"
  | queryMalformed sender cause => s!"Malformed UTE telegram from {sender.text}: {cause.message}"
  | answerIgnored sender => s!"Ignoring UTE response from {sender.text}"
  | queryRefused sender profile =>
      s!"UTE teach-in of {sender.text} refused: {profile.text} unsupported"

end Note

/-! ## Entries -/

inductive Entry where
  | note (note : Note)
  | ticked (listener : String)
  | heard (listener : String) (packet : Packet)
  | left (listener : String) (done : Bool)
  | joined (listener : String) (id : Nat)
  | notified (observer : String) (notice : TeachIn.Notice)
  | called (observer : String) (call : TeachIn.WindowCall) (done : Bool)
  deriving DecidableEq, Repr

/-- Entries, the newest first. -/
structure Journal where
  newest : List Entry := []
  deriving DecidableEq, Repr

namespace Journal

def add (j : Journal) (entry : Entry) : Journal := ⟨entry :: j.newest⟩

def entries (j : Journal) : List Entry := j.newest.reverse

@[simp] theorem entries_add (j : Journal) (entry : Entry) :
    (j.add entry).entries = j.entries ++ [entry] := by
  simp [add, entries]

def notes (j : Journal) : List Note :=
  j.entries.filterMap fun
    | .note n => some n
    | _ => none

def notices (j : Journal) : List (String × TeachIn.Notice) :=
  j.entries.filterMap fun
    | .notified observer n => some (observer, n)
    | _ => none

end Journal

end Esp3Host
