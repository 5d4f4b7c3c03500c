import Esp3Host.Settings.Basic

/-!
# Writing settings

Settings are written group by group, with one profile on a line.
-/

namespace Esp3Host.Settings

def quotedChar (c : Char) : List Char :=
  match c with
  | '"' => ['\\', '"']
  | '\\' => ['\\', '\\']
  | '\n' => ['\\', 'n']
  | '\r' => ['\\', 'r']
  | '\t' => ['\\', 't']
  | c =>
      if c.toNat < 0x20 ∨ c.toNat = 0x7F then ['\\', 'u'] ++ (Hex.number 4 c.toNat).toList else [c]

def quoted (text : String) : String :=
  String.ofList ('"' :: text.toList.flatMap quotedChar ++ ['"'])

def field (name value : String) : String := s!"{name} = {value}\n"

def group (name : String) (fields : List String) : String :=
  s!"[{name}]\n" ++ String.join fields

def lines : List String → String
  | [] => "[]"
  | items => "[\n" ++ String.join (items.map fun item => s!"    {item},\n") ++ "]"

def text (s : Settings) : String :=
  "\n".intercalate
    [ group "serial"
        [field "port" (quoted s.serial.port), field "baud_rate" (toString s.serial.baudRate)],
      group "link"
        [ field "response_timeout_ms" (toString s.link.responseTimeoutMillis),
          field "max_attempts" (toString s.link.attempts),
          field "tx_cycle_ms" (toString s.link.transmitCycleMillis),
          field "delivery_cycle_ms" (toString s.link.deliveryCycleMillis),
          field "unobserved" (quoted s.link.unobserved.word) ],
      group "teach_in"
        [ field "default_timeout_secs" (toString s.teachIn.timeoutSeconds),
          field "profiles" (lines (s.teachIn.profiles.map fun profile => quoted profile.text)) ],
      group "logging"
        ([field "level" (quoted s.logging.level)]
          ++ (s.logging.file.map fun file => field "file" (quoted file)).toList) ]

end Esp3Host.Settings
