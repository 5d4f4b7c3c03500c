import Esp3Host.Program.Plan

/-!
# The program

Arguments, files, the console and the port, around a session that decides everything.  The port is
opened as a file.  Its line has to be set up already, such that a read ends when the line is silent.
-/

namespace Esp3Host.Program

def Output.emit (threshold : Threshold) (logFile : Option IO.FS.Handle) : Output → IO Unit
  | .result text => IO.println text
  | .complaint text => IO.eprintln text
  | output => do
      if let some (level, text) := output.logged? then
        if level.rank ≤ threshold then
          match logFile with
          | some file => do
              file.putStrLn (Output.logLine level text)
              file.flush
          | none => IO.eprintln (Output.logLine level text)

/-- The fault behind an error of the system, whose number may come with its sign changed. -/
def faultOf (error : IO.Error) : PathFault :=
  let code? : Option UInt32 := match error with
    | .noFileOrDirectory _ code _ | .noSuchThing _ code _ | .permissionDenied _ code _
    | .inappropriateType _ code _ | .invalidArgument _ code _ | .resourceExhausted _ code _ =>
        some code
    | _ => none
  let fault? := code?.bind fun code =>
    PathFault.ofNumber? (min code.toNat (Nat.pow 2 32 - code.toNat))
  fault?.getD .notFound

def readContent (path : String) : IO (Except PathFault ByteArray) := do
  try
    return .ok (← IO.FS.readBinFile path)
  catch error => return .error (faultOf error)

partial def serve (port : IO.FS.Handle) (start : Nat) (emit : Output → IO Unit)
    (session : Session) : IO UInt32 := do
  let (bytes, outputs, session) := session.takeOut
  port.write ⟨bytes.toArray⟩
  port.flush
  outputs.forM emit
  match session.ending with
  | some (.exit code) => return UInt32.ofNat code
  | some .killed => return 130
  | none =>
      let arrived ← port.read (USize.ofNat Host.chunkSize)
      let now : Instant := Int.ofNat ((← IO.monoNanosNow) - start)
      serve port start emit ((session.advance now).arrive arrived.toList)

def runJob (plan : Plan) (job : Job) (emit : Output → IO Unit) : IO UInt32 := do
  let serial := plan.settings.serial
  (connecting serial).forM emit
  try
    let port ← IO.FS.Handle.mk serial.port .readWrite
    serve port (← IO.monoNanosNow) emit (job.session plan.settings)
  catch error =>
    emit (failure ((faultOf error).portMessage serial.port))
    return 1

def runInit (path : String) : IO UInt32 := do
  try
    IO.FS.writeFile path Settings.standard.text
    IO.println s!"Wrote default configuration to {path}"
    return 0
  catch error =>
    (failure (Settings.unwritableMessage path (faultOf error))).emit 0 none
    return 1

def openLog (path : Option String) : IO (Option IO.FS.Handle) := do
  match path with
  | none => return none
  | some path =>
      try
        return some (← IO.FS.Handle.mk path .append)
      catch _ => return none

def runCommand (invocation : CommandLine.Invocation) : IO UInt32 := do
  if invocation.command = .init then runInit invocation.config
  else
    let plan := plan invocation (← readContent invocation.config)
    let emit := Output.emit plan.threshold (← openLog plan.logFile)
    plan.complaints.forM emit
    match jobOf plan.settings invocation.command with
    | .error message => do
        emit (failure message)
        return 1
    | .ok none => return 0
    | .ok (some job) => runJob plan job emit

end Esp3Host.Program

open Esp3Host in
def main (arguments : List String) : IO UInt32 := do
  match CommandLine.read arguments with
  | .error refusal => do
      (Program.refusalOutputs refusal).forM (Program.Output.emit 0 none)
      return UInt32.ofNat (Program.refusalCode refusal)
  | .ok invocation => Program.runCommand invocation
