import Esp3Host.Program.Plan
import Esp3Host.Program.World

/-!
# The program on trial

The whole program, run in a prepared directory and at a prepared port by a script of what happens at
the other end.  Between the steps of a script the program does all that it can do at once; where a
step waits for something, time passes.
-/

namespace Esp3Host.Program

namespace Trial

inductive Step where
  | expect (count : Nat)
  | write (bytes : Bytes)
  | await (text : String)
  | ready
  | interrupt

inductive Answer where
  | sent (bytes : Bytes)
  | seen (found : Bool)
  deriving DecidableEq, Repr

structure Report where
  exit : Option Nat
  outputs : List Output := []
  answers : List Answer := []
  threshold : Threshold := 0
  logPlace : Option Place := none
  world : World

/-! ## What is written where -/

inductive Line where
  | logged (text : String)
  | progress (text : String)
  | other (text : String)
  deriving DecidableEq, Repr

namespace Line

def logged? : Line → Option String
  | logged text => some text
  | progress _ | other _ => none

def other? : Line → Option String
  | other text => some text
  | logged _ | progress _ => none

def written : Line → String
  | logged text | progress text => s!"2000-01-01T00:00:00Z {text}"
  | other text => text

end Line

def linesOf (text : String) : List String :=
  (text.splitOn "\n").map fun line => (line.dropSuffix "\r").toString

/-- The lines of a log output whose first line is of the given kind. -/
def logLines (threshold : Threshold) (first : String → Line) (level : Level) (text : String) :
    List Line :=
  if threshold < level.rank then []
  else
    match linesOf (Output.logLine level text) with
    | [] => []
    | line :: rest => first line :: rest.map .other

def Output.logLines (threshold : Threshold) : Output → List Line
  | .log level text => Trial.logLines threshold .logged level text
  | .progress text => Trial.logLines threshold .progress .info text
  | .result _ | .complaint _ => []

def errorLines (threshold : Threshold) (logPlace : Option Place) : Output → List Line
  | .complaint text => (linesOf text).map .other
  | output => if logPlace.isSome then [] else Output.logLines threshold output

def resultLine? : Output → Option String
  | .result text => some text
  | _ => none

def joinLines (lines : List String) : String := String.join (lines.map (· ++ "\n"))

def resultText (outputs : List Output) : String := joinLines (outputs.filterMap resultLine?)

def errorText (threshold : Threshold) (logPlace : Option Place) (outputs : List Output) : String :=
  joinLines ((outputs.flatMap (errorLines threshold logPlace)).map Line.written)

namespace Report

def results (r : Report) : String := resultText r.outputs

def errorLines (r : Report) : List Line :=
  r.outputs.flatMap (Trial.errorLines r.threshold r.logPlace)

def complaints (r : Report) : List String := r.errorLines.filterMap Line.other?

def logged (r : Report) : List String := r.errorLines.filterMap Line.logged?

def loggedTo? (r : Report) (name : String) : Option (List String) :=
  if r.logPlace = some (r.world.here ++ [name]) then
    some ((r.outputs.flatMap (Output.logLines r.threshold)).filterMap Line.logged?)
  else (r.world.file? name).map fun _ => []

end Report

/-! ## Playing a script -/

/-- A plan under way: what it wrote before it opened its port, and the session behind that. -/
structure State where
  threshold : Threshold
  logPlace : Option Place
  opening : List Output
  session : Session
  isOpen : Bool := false
  taken : Nat := 0
  answers : List Answer := []

namespace State

def sentBytes (s : Session) : Bytes := s.host.link.line.frames.flatten

def occursIn (part : List Char) : List Char → Bool
  | [] => part.isEmpty
  | c :: rest => part.isPrefixOf (c :: rest) || occursIn part rest

def shows (state : State) (text : String) (outputs : List Output) : Bool :=
  occursIn text.toList (resultText outputs).toList
    || occursIn text.toList (errorText state.threshold state.logPlace outputs).toList

def answer (state : State) (given : Answer) : State :=
  { state with answers := state.answers ++ [given] }

def wait (state : State) (condition : Session → Bool) : State :=
  { state with session := state.session.wait condition, isOpen := true }

def expect (state : State) (count : Nat) : State :=
  let state := state.wait fun s => state.taken + count ≤ (sentBytes s).length
  let bytes := (sentBytes state.session).drop state.taken
  { state with taken := state.taken + bytes.length }.answer (.sent bytes)

def await (state : State) (text : String) : State :=
  if state.shows text state.opening then state.answer (.seen true)
  else
    let isShown := fun (s : Session) => state.shows text (state.opening ++ s.outputs)
    let state := state.wait isShown
    state.answer (.seen (isShown state.session))

/-- Bytes that arrive before the port is open are lost. -/
def arrive (state : State) (bytes : Bytes) : State :=
  if state.isOpen then { state with session := state.session.arrive bytes } else state

def interrupt (state : State) : State :=
  { state with
    isOpen := true
    session := if state.isOpen then state.session.interrupt
      else { state.session with outputs := [], ending := some .killed } }

def play (state : State) : Step → State
  | .expect count => state.expect count
  | .write bytes => state.arrive bytes
  | .await text => state.await text
  | .ready => { state with isOpen := true }
  | .interrupt => state.interrupt

end State

def exitCode? (s : Session) : Option Nat :=
  match s.ending with
  | some (.exit code) => some code
  | _ => none

/-! ## Running the program -/

def runInit (world : World) (path : String) : Report :=
  match world.write path Settings.standard.text.toUTF8 with
  | .error cause =>
      { exit := some 1, outputs := [failure (Settings.unwritableMessage path cause)], world }
  | .ok world =>
      { exit := some 0, outputs := [.result s!"Wrote default configuration to {path}"], world }

def runSession (report : Report) (session : Session) (script : List Step) : Report :=
  let state : State :=
    { threshold := report.threshold, logPlace := report.logPlace, opening := report.outputs, session }
  let state := (script.foldl State.play state).wait fun _ => false
  { report with
    exit := exitCode? state.session
    outputs := report.outputs ++ state.session.outputs
    answers := state.answers }

def openLog (world : World) (plan : Plan) : Option Place × World :=
  match plan.logFile.map world.openLog with
  | some (.ok (place, world)) => (some place, world)
  | _ => (none, world)

def runCommand (world : World) (invocation : CommandLine.Invocation) (script : List Step) :
    Report :=
  let plan := plan invocation (world.read invocation.config)
  let (logPlace, world) := openLog world plan
  let ended := fun (outputs : List Output) =>
    { exit := some 1, outputs := plan.complaints ++ outputs, threshold := plan.threshold, logPlace
      world : Report }
  match jobOf plan.settings invocation.command with
  | .error message => ended [failure message]
  | .ok none => ended []
  | .ok (some job) =>
      let serial := plan.settings.serial
      match world.portFault? serial.port with
      | some fault => ended (connecting serial ++ [failure (fault.portMessage serial.port)])
      | none => runSession (ended (connecting serial)) (job.session plan.settings) script

def run (world : World) (arguments : List String) (script : List Step) : Report :=
  match CommandLine.read arguments with
  | .error refusal =>
      { exit := some (refusalCode refusal), outputs := refusalOutputs refusal, world }
  | .ok invocation =>
      if invocation.command = .init then runInit world invocation.config
      else runCommand world invocation script

end Trial

end Esp3Host.Program
