import Esp3Host.Toml.Moment
import Esp3Host.Toml.Number
import Esp3Host.Toml.Table

/-!
# Documents

A document is a sequence of lines: keys with their values, headers, and comments.  `Document.read?`
reads the table it describes; a text that is no document describes none.
-/

namespace Esp3Host.Toml

open Reader

/-- How deep arrays and braces may be nested, and how many parts a dotted key may have. -/
def maximalDepth : Nat := 79

def isKeyChar (c : Char) : Bool := c.isAlphanum || c == '_' || c == '-'

def keyPart : Reader Key := do
  skipSpaces
  let (name, place) ← spanned (quoted '"' <|> quoted '\'' <|> String.ofList <$> takeSome isKeyChar)
  skipSpaces
  return ⟨name, place⟩

def path : Reader Path := do
  let parts ← separated keyPart (exactly '.')
  match parts.getLast? with
  | some last =>
      if maximalDepth < parts.length then failure
      return ⟨parts.dropLast, last⟩
  | none => failure

def pair (value : Reader (Located Value)) : Reader (Path × Located Value) := do
  let path ← path
  exactly '='
  skipSpaces
  return (path, ← value)

def boolean : Reader Value :=
  (do
    word ['t', 'r', 'u', 'e']
    return .boolean true)
  <|> (do
    word ['f', 'a', 'l', 's', 'e']
    return .boolean false)

def scalar : Reader Value :=
  Value.string <$> text <|> boolean <|> moment <|> float <|> integer

def array (value : Reader (Located Value)) : Reader Value := do
  exactly '['
  let item : Reader (Located Value) := do
    skipFiller
    let item ← value
    skipFiller
    return item
  let items ← separated item (exactly ',')
  if !items.isEmpty then
    let _ ← optional (exactly ',')
  skipFiller
  exactly ']'
  return .array items

def braces (value : Reader (Located Value)) : Reader Value := do
  exactly '\x7b'
  let item : Reader (Path × Located Value) := do
    let item ← pair value
    skipSpaces
    return item
  let pairs ← separated item (exactly ',')
  skipSpaces
  exactly '\x7d'
  return .table .braces (← Entries.insertAll [] pairs)

def value : Nat → Reader (Located Value)
  | 0 => located scalar
  | depth + 1 => located (scalar <|> array (value depth) <|> braces (value depth))

/-- What a text describes: a table, whose place ends with the last value before any header. -/
structure Document where
  entries : Entries
  place : Stretch

namespace Document

inductive Header where
  | table (path : Path)
  | tables (path : Path)
  deriving DecidableEq, Repr

structure Part where
  header : Header
  place : Stretch
  body : Body

def emptyLine : Reader Unit := do
  skipSpaces
  comment *> lineEnd <|> lineBreak

def pairLine : Reader (Path × Located Value) := do
  let pair ← pair (value maximalDepth)
  lineRest
  return pair

def body : Reader Body := do
  let lines ← many (some <$> pairLine <|> emptyLine *> pure none)
  return lines.filterMap id

def header : Reader (Header × Stretch) := do
  skipSpaces
  let header ← spanned
    ((do
      word ['[', '[']
      let path ← path
      word [']', ']']
      return .tables path)
    <|> (do
      exactly '['
      let path ← path
      exactly ']'
      return .table path))
  lineRest
  return header

def lines : Reader (Body × List Part) := do
  let _ ← optional (exactly '\ufeff')
  let first ← body
  let parts ← many (do
    let (header, place) ← header
    return ⟨header, place, ← body⟩)
  skipSpaces
  return (first, parts)

def insert (entries : Entries) (part : Part) : Option Entries :=
  match part.header with
  | .table path => entries.insertTable path part.place part.body
  | .tables path => entries.appendTable path part.place part.body

def read? (text : List Char) : Option Document := do
  let (first, parts) ← readAll? lines text
  let entries ← parts.foldlM insert (← Entries.insertAll [] first)
  return ⟨entries, first.placeAfter ⟨text, text⟩⟩

end Document

end Esp3Host.Toml
