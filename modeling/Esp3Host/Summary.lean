import Esp3Host.Answer
import Esp3Host.Packet.Wire
import Esp3Host.Telegram

/-!
# One-line summaries

What a monitor shows of a packet: telegrams with their parts, responses and events with their code,
anything else as it stands.
-/

namespace Esp3Host

namespace Telegram

def summary (t : Telegram) : String :=
  s!"{t.kind.name} from {t.sender.text} payload [{Hex.snippet 16 t.payload}]"
    ++ s!" status 0x{Hex.code t.status} hops {t.repeaterCount}"
    ++ match t.strength? with
      | some strength => s!" -{strength} dBm"
      | none => ""

end Telegram

def optionalName : Option String → String
  | some name => s!"Some({name})"
  | none => "None"

def Packet.summary (p : Packet) : String :=
  match p.kind with
  | .radio =>
      match Telegram.ofPacket p with
      | .ok t => t.summary
      | .error e => s!"radio ({e.message})"
  | .response => "RESPONSE " ++ optionalName ((ReturnCode.ofPacket? p).map ReturnCode.name)
  | .event => "EVENT " ++ optionalName ((EventCode.ofPacket? p).map EventCode.name)
  | kind => s!"{kind.name} {p.text}"

end Esp3Host
