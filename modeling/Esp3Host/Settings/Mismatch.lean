import Esp3Host.Number.Shortest
import Esp3Host.Profile
import Esp3Host.Text.Quoted
import Esp3Host.Toml.Value

/-!
# Values that do not fit

A document can be well-formed and still hold no settings.  `Mismatch` tells what is wrong with one
of its values.
-/

namespace Esp3Host

inductive Mismatch where
  | missing (field : String)
  | wrongKind (found : Toml.Value) (expected : String)
  | outOfRange (value : Int) (expected : String)
  | tooShort (length : Nat) (group : String) (fields : Nat)
  | unknownChoice (given : String) (choices : List String)
  | noChoice
  | emptyChoice
  | manyChoices
  | choiceWithContent (content : Toml.Value)
  | profile (given : String) (cause : ProfileError)
  deriving Repr

namespace Toml.Value

def description : Value → String
  | string text => s!"string {Text.Quoted.encode text}"
  | integer value => s!"integer `{value}`"
  | float value => s!"floating point `{value.text}`"
  | boolean value => s!"boolean `{value}`"
  | array _ | tables _ => "sequence"
  | table _ _ | moment => "map"

def kind : Value → String
  | string _ => "string"
  | integer _ => "integer"
  | float _ => "float"
  | boolean _ => "boolean"
  | moment => "datetime"
  | array _ => "array"
  | tables _ => "array of tables"
  | table _ _ => "table"

end Toml.Value

namespace Mismatch

def message : Mismatch → String
  | missing field => s!"missing field `{field}`"
  | wrongKind found expected => s!"invalid type: {found.description}, expected {expected}"
  | outOfRange value expected => s!"invalid value: integer `{value}`, expected {expected}"
  | tooShort length group fields =>
      s!"invalid length {length}, expected struct {group} with {fields} elements"
  | unknownChoice given choices =>
      s!"unknown variant `{given}`, expected "
        ++ " or ".intercalate (choices.map fun choice => s!"`{choice}`")
  | noChoice => "wanted string or table"
  | emptyChoice => "wanted exactly 1 element, found 0 elements"
  | manyChoices => "wanted exactly 1 element, more than 1 element"
  | choiceWithContent (.tables _) => "expected empty array"
  | choiceWithContent (.table _ _) | choiceWithContent (.array _) => "expected empty table"
  | choiceWithContent content => s!"expected table, found {content.kind}"
  | profile given cause => cause.message given

end Mismatch

end Esp3Host
