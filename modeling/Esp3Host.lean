import Esp3Host.Bench.Live
import Esp3Host.Main
import Esp3Host.Program.Trial
import Esp3Host.Proofs.Link.SingleFlight
import Esp3Host.Proofs.Link.StopAndWait
import Esp3Host.Proofs.Stream.Assembly
import Esp3Host.Proofs.TeachIn.Outcome
import Esp3Host.Proofs.Stream.Chunks
import Esp3Host.Proofs.Stream.Pieces
import Esp3Host.Proofs.Checksum.Bits
import Esp3Host.Proofs.Checksum.Burst
import Esp3Host.Proofs.Packet.Damage
import Esp3Host.Proofs.Stream.Segments
import Esp3Host.Proofs.Stream.Recovery
import Esp3Host.Proofs.Link.Handed
import Esp3Host.Proofs.Link.Passage
import Esp3Host.Proofs.Link.Progress
import Esp3Host.Proofs.Link.Budget
import Esp3Host.Proofs.Link.Intake
import Esp3Host.Proofs.Link.Ledger
import Esp3Host.Proofs.Link.Growth
import Esp3Host.Proofs.TeachIn.Growth
import Esp3Host.Proofs.Station.Delivery
import Esp3Host.Proofs.Station.Conservation
import Esp3Host.Proofs.TeachIn.Callbacks
import Esp3Host.Proofs.TeachIn.Alternation
import Esp3Host.Proofs.TeachIn.Operations
import Esp3Host.Proofs.TeachIn.Answers
import Esp3Host.Proofs.TeachIn.Records
import Esp3Host.Proofs.TeachIn.Lifecycle
import Esp3Host.Proofs.Station.Handshake
import Esp3Host.Proofs.Link.Loopback
import Esp3Host.Proofs.Link.Ordinary
import Esp3Host.Proofs.Link.Transparency
import Esp3Host.Proofs.Link.Refusals
import Esp3Host.Proofs.Link.Sources
import Esp3Host.Proofs.Link.Races
import Esp3Host.Proofs.TeachIn.Finds
import Esp3Host.Proofs.TeachIn.Recorded
import Esp3Host.Proofs.TeachIn.Admission
import Esp3Host.Proofs.TeachIn.Withdrawal
import Esp3Host.Proofs.TeachIn.Deadline
import Esp3Host.Proofs.Station.Trust
import Esp3Host.Proofs.Device.Table
import Esp3Host.Proofs.Link.Order
import Esp3Host.Proofs.Link.Spacing
import Esp3Host.Proofs.Link.Quiescence
import Esp3Host.Proofs.Link.Classes
import Esp3Host.Proofs.Station.Registrations
import Esp3Host.Proofs.Station.Audience
import Esp3Host.Proofs.Station.Membership
import Esp3Host.Proofs.Stream.Rounds
import Esp3Host.Proofs.Checksum.Remainder
import Esp3Host.Proofs.Checksum.Parity
import Esp3Host.Proofs.Packet.OddErrors
import Esp3Host.Proofs.Telegram.Layout
import Esp3Host.Proofs.Telegram.Commands
import Esp3Host.Proofs.Telegram.LearnBit
import Esp3Host.Proofs.TeachIn.Recognition
import Esp3Host.Proofs.TeachIn.Echo
import Esp3Host.Proofs.TeachIn.Overheard
import Esp3Host.Proofs.TeachIn.ProfileBits
import Esp3Host.Proofs.Text.Spelling
import Esp3Host.Proofs.Profile.Grammar
import Esp3Host.Proofs.Address.Spelling
import Esp3Host.Proofs.Answer.Fields
import Esp3Host.Proofs.Settings.Followed
import Esp3Host.Proofs.Stream.Verdicts
import Esp3Host.Proofs.Packet.Lengths
