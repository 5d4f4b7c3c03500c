import Esp3Host.PathFault
import Esp3Host.Settings.Basic
import Esp3Host.Settings.Mismatch
import Esp3Host.Toml.Document

/-!
# Reading settings

Settings come in groups.  A group is a table, whose unknown keys are passed over, or an array of its
fields in their order.  The first value that does not fit decides about the error, in the order of
the document, and then the first field that is missing.  What does not fit is shown where it stands,
and what has no place of its own where the value stands that contains it.  `Settings.load` reads the
content of a whole file.
-/

namespace Esp3Host

open Toml (Value Entries)

namespace Settings

/-- A value that fits, or what does not fit, with its place if that is known yet. -/
abbrev Fitting (α : Type) := Except (Located Mismatch) α

def misfit {α : Type} (cause : Mismatch) : Fitting α := .error ⟨cause, none⟩

def within {α : Type} (place : Option Stretch) : Fitting α → Fitting α
  | .ok value => .ok value
  | .error fault => .error { fault with place := fault.place <|> place }

def reading {α : Type} (read : Value → Fitting α) (value : Located Value) : Fitting α :=
  within value.place (read value.value)

/-! ## Single values -/

def readText : Located Value → Fitting String :=
  reading fun
    | .string text => .ok text
    | found => misfit (.wrongKind found "a string")

def readNumber (bits : Nat) : Located Value → Fitting Nat :=
  reading fun
    | .integer value =>
        if 0 ≤ value ∧ value < Int.pow 2 bits then .ok value.toNat
        else misfit (.outOfRange value s!"u{bits}")
    | found => misfit (.wrongKind found s!"u{bits}")

def readProfile (value : Located Value) : Fitting Profile := do
  let given ← readText value
  match Profile.read given with
  | .ok profile => .ok profile
  | .error cause => misfit (.profile given cause)

def tableValues (tables : List (Located Entries)) : List (Located Value) :=
  tables.map fun table => ⟨.table .header table.value, table.place⟩

def readProfiles : Located Value → Fitting (List Profile) :=
  reading fun
    | .array items => items.mapM readProfile
    | .tables tables => (tableValues tables).mapM readProfile
    | found => misfit (.wrongKind found "a sequence")

def policies : List UnobservedPolicy := [.drop, .retain]

def policyOf (word : String) : Fitting UnobservedPolicy :=
  match policies.find? fun policy => policy.word = word with
  | some policy => .ok policy
  | none => misfit (.unknownChoice word (policies.map UnobservedPolicy.word))

/-- A choice is its word, or a table with the word as its only key and nothing behind it. -/
def readPolicy : Located Value → Fitting UnobservedPolicy :=
  reading fun
    | .string word => policyOf word
    | .table _ [] => misfit .emptyChoice
    | .table _ [(key, content)] => do
        let policy ← within (some key.place) (policyOf key.name)
        match content.value with
        | .table _ [] | .array [] => .ok policy
        | found => within content.place (misfit (.choiceWithContent found))
    | .table _ _ => misfit .manyChoices
    | _ => misfit .noChoice

/-! ## Groups -/

structure Group where
  name : String
  fields : List String
  needed : Nat

abbrev Field := String × Located Value

/-- The fields of a table.  A value without a place of its own stands where its key does. -/
def fieldsOf (entries : Entries) : List Field :=
  entries.map fun (key, value) =>
    (key.name, { value with place := value.place <|> some key.place })

def Group.fieldsOf (group : Group) : Value → Fitting (List Field × Option Mismatch)
  | .table _ entries => .ok (Settings.fieldsOf entries, none)
  | .moment => .ok ([], none)
  | .array items => .ok (listed items)
  | .tables tables => .ok (listed (tableValues tables))
  | found => misfit (.wrongKind found s!"struct {group.name}")
where
  listed (items : List (Located Value)) : List Field × Option Mismatch :=
    (group.fields.zip items,
      if items.length < group.needed then
        some (.tooShort items.length group.name group.fields.length)
      else none)

/-- Read a group field by field, beginning with what holds for fields that are not there. -/
def Group.read {α : Type} (group : Group) (field : α → Field → Fitting α) (start : α) :
    Value → Fitting α := fun value => do
  let (fields, fault) ← group.fieldsOf value
  let result ← fields.foldlM field start
  match fault with
  | some fault => misfit fault
  | none => .ok result

def needed {α : Type} (field : String) : Option α → Fitting α
  | some value => .ok value
  | none => misfit (.missing field)

def readSerial : Located Value → Fitting SerialSettings := reading fun value => do
  let group : Group := ⟨"SerialConfig", ["port", "baud_rate"], 1⟩
  let (port, baudRate) ← group.read
    (fun (read : Option String × Option Nat) (field : Field) => do
      match field with
      | ("port", value) => return (some (← readText value), read.2)
      | ("baud_rate", value) => return (read.1, some (← readNumber 32 value))
      | _ => return read)
    (none, none) value
  let serial : SerialSettings := { port := ← needed "port" port }
  return { serial with baudRate := baudRate.getD serial.baudRate }

def readLink : Located Value → Fitting LinkSettings := reading fun value =>
  let group : Group :=
    ⟨"LinkConfig",
      ["response_timeout_ms", "max_attempts", "tx_cycle_ms", "delivery_cycle_ms", "unobserved"], 0⟩
  group.read
    (fun (link : LinkSettings) (field : Field) => do
      match field with
      | ("response_timeout_ms", value) =>
          return { link with responseTimeoutMillis := ← readNumber 64 value }
      | ("max_attempts", value) => return { link with attempts := ← readNumber 8 value }
      | ("tx_cycle_ms", value) => return { link with transmitCycleMillis := ← readNumber 64 value }
      | ("delivery_cycle_ms", value) =>
          return { link with deliveryCycleMillis := ← readNumber 64 value }
      | ("unobserved", value) => return { link with unobserved := ← readPolicy value }
      | _ => return link)
    {} value

def readTeachIn : Located Value → Fitting TeachInSettings := reading fun value =>
  let group : Group := ⟨"TeachInConfig", ["default_timeout_secs", "profiles"], 0⟩
  group.read
    (fun (teachIn : TeachInSettings) (field : Field) => do
      match field with
      | ("default_timeout_secs", value) =>
          return { teachIn with timeoutSeconds := ← readNumber 64 value }
      | ("profiles", value) => return { teachIn with profiles := ← readProfiles value }
      | _ => return teachIn)
    {} value

def readLogging : Located Value → Fitting LoggingSettings := reading fun value => do
  let group : Group := ⟨"LoggingConfig", ["level", "file"], 2⟩
  let (level, file) ← group.read
    (fun (read : Option String × Option String) (field : Field) => do
      match field with
      | ("level", value) => return (some (← readText value), read.2)
      | ("file", value) => return (read.1, some (← readText value))
      | _ => return read)
    (none, none) value
  return { level := ← needed "level" level, file := file }

/-! ## The whole -/

structure Draft where
  serial : Option SerialSettings := none
  link : LinkSettings := {}
  teachIn : TeachInSettings := {}
  logging : Option LoggingSettings := none

def readGroup (draft : Draft) : Field → Fitting Draft
  | ("serial", value) => return { draft with serial := some (← readSerial value) }
  | ("link", value) => return { draft with link := ← readLink value }
  | ("teach_in", value) => return { draft with teachIn := ← readTeachIn value }
  | ("logging", value) => return { draft with logging := some (← readLogging value) }
  | _ => return draft

def ofEntries (entries : Entries) : Fitting Settings := do
  let draft ← (fieldsOf entries).foldlM readGroup {}
  return {
    serial := ← needed "serial" draft.serial
    link := draft.link
    teachIn := draft.teachIn
    logging := ← needed "logging" draft.logging }

end Settings

/-! ## Files -/

inductive FileFault where
  | path (cause : PathFault)
  | notText
  deriving DecidableEq, Repr

def FileFault.message : FileFault → String
  | path cause => cause.message
  | notText => "stream did not contain valid UTF-8"

inductive LoadError where
  | unreadable (cause : FileFault)
  | notADocument
  | mismatch (cause : Mismatch) (excerpt : Excerpt)
  | fault (cause : SettingsFault)
  deriving Repr

namespace LoadError

def message (path : String) : LoadError → String
  | unreadable cause => s!"Failed to read config file {path}: {cause.message}"
  | notADocument => s!"Failed to parse config file {path}"
  | mismatch cause excerpt =>
      let lines :=
        s!"TOML parse error at line {excerpt.line}, column {excerpt.indent + 1}" :: excerpt.lines
          ++ [cause.message]
      s!"Failed to parse config file {path}: " ++ String.join (lines.map (· ++ "\n"))
  | fault cause => cause.message

end LoadError

namespace Settings

def unwritableMessage (path : String) (cause : PathFault) : String :=
  s!"Failed to write config file {path}: {cause.message}"

def ofText (text : String) : Except LoadError Settings :=
  match Toml.Document.read? text.toList with
  | none => .error .notADocument
  | some document =>
      match ofEntries document.entries with
      | .error fault =>
          .error (.mismatch fault.value
            ((fault.place.getD document.place).excerpt text.toList))
      | .ok settings =>
          match settings.check with
          | .error cause => .error (.fault cause)
          | .ok () => .ok settings

def load : Except PathFault ByteArray → Except LoadError Settings
  | .error cause => .error (.unreadable (.path cause))
  | .ok bytes =>
      match String.fromUTF8? bytes with
      | none => .error (.unreadable .notText)
      | some text => ofText text

end Settings

end Esp3Host
