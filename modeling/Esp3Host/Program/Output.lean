import Esp3Host.Device
import Esp3Host.Journal
import Esp3Host.Link.Counters

/-!
# What the program writes

Results go to standard output and complaints to standard error; log lines go where the settings say.
Counters and devices are written as objects of named values.
-/

namespace Esp3Host

def Counters.text (c : Counters) : String :=
  "\x7b\n"
    ++ ",\n".intercalate (c.fields.map fun field => s!"  \"{field.1}\": {field.2}")
    ++ "\n\x7d"

def Device.text (d : Device) : String :=
  "\x7b" ++ s!"\"address\":\"{d.address.text}\",\"manufacturer\":{d.manufacturer},"
    ++ s!"\"eep\":\"{d.profile.text}\"" ++ "\x7d"

namespace Program

inductive Output where
  | result (text : String)
  | complaint (text : String)
  | log (level : Level) (text : String)
  | progress (text : String)
  deriving DecidableEq, Repr

namespace Output

def ofNote (n : Note) : Output := log n.level n.text

def logLine (level : Level) (text : String) : String := s!"[{level.name}] {text}"

def logged? : Output → Option (Level × String)
  | result _ | complaint _ => none
  | log level text => some (level, text)
  | progress text => some (.info, text)

end Output

/-! ## How much is logged -/

/-- The levels that are logged: up to a rank, which is zero where nothing is. -/
abbrev Threshold := Nat

def thresholdOf? (name : String) : Option Threshold :=
  ["OFF", "ERROR", "WARN", "INFO", "DEBUG", "TRACE"].findIdx? fun word => word = name.map Char.toUpper

def threshold (verbosity : Nat) (level : Option String) : Threshold :=
  match verbosity with
  | 0 => (level.bind thresholdOf?).getD Level.info.rank
  | 1 => Level.debug.rank
  | _ => Level.trace.rank

end Program

end Esp3Host
