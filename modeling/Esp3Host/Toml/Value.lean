import Esp3Host.Number.Binary64
import Esp3Host.Text.Stretch

/-!
# Values of a TOML document

A value is a scalar, an array, or a table whose keys keep the order in which they were written.  What
a document spells out has a place there; a table that it only passes through has none.
-/

namespace Esp3Host.Toml

/--
How a table came to be decides what may still be added to it.  One that a header or a dotted key
only passes through is `implied` or `dotted`.
-/
inductive TableOrigin where
  | braces
  | header
  | implied
  | dotted
  deriving DecidableEq, Repr

structure Key where
  name : String
  place : Stretch
  deriving DecidableEq, Repr

inductive Value where
  | string (text : String)
  | integer (value : Int)
  | float (value : Binary64)
  | boolean (value : Bool)
  | moment
  | array (items : List (Located Value))
  | tables (items : List (Located (List (Key × Located Value))))
  | table (origin : TableOrigin) (entries : List (Key × Located Value))
  deriving Repr

abbrev Entries := List (Key × Located Value)

end Esp3Host.Toml
