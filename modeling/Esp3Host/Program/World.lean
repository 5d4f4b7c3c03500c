import Esp3Host.PathFault

/-!
# Worlds

A world is what the program finds when it runs: directories, files, devices and a serial line, each
at its place, and the directory in which the program works.  `World.find` follows a path, and
`World.target` finds the place of a file to be written, which may be missing still.
-/

namespace Esp3Host.Program

inductive Device where
  | sink
  | full
  | disconnected
  deriving DecidableEq, Repr

inductive Node where
  | directory
  | file (content : ByteArray)
  | device (kind : Device)
  | serialLine

abbrev Place := List String

structure World where
  nodes : List (Place × Node)
  here : Place

namespace World

def node? (w : World) (place : Place) : Option Node := w.nodes.lookup place

def put (w : World) (place : Place) (node : Node) : World :=
  { w with nodes := (place, node) :: w.nodes }

def file? (w : World) (name : String) : Option ByteArray :=
  match w.node? (w.here ++ [name]) with
  | some (.file content) => some content
  | _ => none

/-! ## Following paths -/

def longestName : Nat := 255

def pathLimit : Nat := 4096

def step (place : Place) : String → Place
  | "" | "." => place
  | ".." => place.dropLast
  | name => place ++ [name]

/-- Follow names from a place; all but the last lead through directories. -/
def walk (w : World) (place : Place) : List String → Except PathFault Place
  | [] => .ok place
  | name :: rest =>
      match w.node? place with
      | none => .error .notFound
      | some .directory =>
          if longestName < name.utf8ByteSize then .error .nameTooLong
          else w.walk (step place name) rest
      | some _ => .error .notADirectory

def start (w : World) (path : String) : Place := if path.startsWith "/" then [] else w.here

def names (path : String) : Except PathFault (List String) :=
  if path.contains '\x00' then .error .invalid
  else if path.isEmpty then .error .notFound
  else if pathLimit ≤ path.utf8ByteSize then .error .nameTooLong
  else .ok (path.splitOn "/")

def find (w : World) (path : String) : Except PathFault Node := do
  match w.node? (← w.walk (w.start path) (← names path)) with
  | none => .error .notFound
  | some (.device .disconnected) => .error .noDevice
  | some node => .ok node

/-- The place of a file to be written; a path that ends in a slash can only lead to a directory. -/
def target (w : World) (path : String) : Except PathFault Place := do
  let given := (← names path).reverse
  let named := given.dropWhile String.isEmpty
  if named.length < given.length then
    let _ ← w.walk (w.start path) ((named.drop 1).reverse ++ [""])
    throw .isDirectory
  let place ← w.walk (w.start path) given.reverse
  match w.node? place with
  | some .directory => throw .isDirectory
  | some (.device .disconnected) => throw .noDevice
  | _ => return place

/-! ## Files and ports -/

def read (w : World) (path : String) : Except PathFault ByteArray := do
  match ← w.find path with
  | .directory => throw .isDirectory
  | .file content => return content
  | .device _ | .serialLine => return .empty

/-- Open a file for writing behind its content, which is empty at first. -/
def openLog (w : World) (path : String) : Except PathFault (Place × World) := do
  let place ← w.target path
  return (place, if (w.node? place).isSome then w else w.put place (.file .empty))

def write (w : World) (path : String) (content : ByteArray) : Except PathFault World := do
  let place ← w.target path
  match w.node? place with
  | some (.device .full) => throw .noSpace
  | some (.device _) | some .serialLine => return w
  | _ => return w.put place (.file content)

def portFault? (w : World) (path : String) : Option PathFault :=
  match w.find path with
  | .error fault => some fault
  | .ok .directory => some .isDirectory
  | .ok (.file _) | .ok (.device _) => some .notALine
  | .ok .serialLine => none

/-! ## What every system has -/

def commonDirectories : List String :=
  ["bin", "boot", "dev", "etc", "home", "lib", "media", "mnt", "opt", "proc", "root", "run", "sbin",
    "srv", "sys", "tmp", "usr", "var"]

def commonDevices : List (String × Device) :=
  [("null", .sink), ("zero", .sink), ("random", .sink), ("urandom", .sink), ("stdout", .sink),
    ("stderr", .sink), ("full", .full), ("tty", .disconnected)]

def commonFiles : List String := ["group", "hostname", "hosts", "passwd"]

def common : List (Place × Node) :=
  [([], .directory)]
    ++ commonDirectories.map (fun name => ([name], .directory))
    ++ commonDevices.map (fun (name, kind) => (["dev", name], .device kind))
    ++ commonFiles.map (fun name => (["etc", name], .file .empty))

def withFiles (files : List (String × ByteArray)) (line : Place) : World :=
  let here : Place := ["tmp", "trial"]
  { here
    nodes := [(here, .directory), (line, .serialLine), (line.dropLast, .directory)]
      ++ files.map (fun (name, content) => (here ++ [name], .file content)) ++ common }

end World

end Esp3Host.Program
