import Esp3Host.Toml.Blank

/-!
# Text in a document

Text stands between double quotes, where a backslash begins an escape, or between single quotes,
where it means itself.  Between three quotes it may have several lines.
-/

namespace Esp3Host.Toml

open Reader

def isHexDigit (c : Char) : Bool :=
  c.isDigit || ('a' ≤ c && c ≤ 'f') || ('A' ≤ c && c ≤ 'F')

def charOfNat? (n : Nat) : Option Char :=
  if n.isValidChar then some (Char.ofNat n) else none

def hexValue (digits : List Char) : Nat :=
  digits.foldl (fun value c =>
    16 * value + (if c.isDigit then c.toNat - 48 else c.toNat % 32 + 9)) 0

def numbered (count : Nat) : Reader Char := do
  let digits ← (List.range count).mapM fun _ => takeIf isHexDigit
  charOfNat? (hexValue digits)

def escaped : Reader Char := do
  exactly '\\'
  match ← takeIf fun _ => true with
  | 'b' => return '\x08'
  | 'f' => return '\x0c'
  | 'n' => return '\n'
  | 'r' => return '\r'
  | 't' => return '\t'
  | '"' => return '"'
  | '\\' => return '\\'
  | 'u' => numbered 4
  | 'U' => numbered 8
  | _ => failure

def isPlain (quote c : Char) : Bool :=
  isTextual c && c != quote && (quote == '\'' || c != '\\')

def quotedChar (quote : Char) : Reader Char :=
  takeIf (isPlain quote) <|> (if quote == '"' then escaped else failure)

def quoted (quote : Char) : Reader String := do
  exactly quote
  let content ← many (quotedChar quote)
  exactly quote
  return String.ofList content

def continuation : Reader (List Char) := do
  exactly '\\'
  skipSpaces
  lineBreak
  modify dropSpacesAndBreaks
  return []

def closes (quote : Char) (rest : List Char) : Bool :=
  rest.take 3 == [quote, quote, quote]

/-- A piece of text of several lines; up to two quotes in a row are text. -/
def linesPiece (quote : Char) : Reader (List Char) :=
  (do
    if closes quote (← get) then failure
    exactly quote
    return [quote])
  <|> (do return [← takeIf (isPlain quote)])
  <|> (if quote == '"' then continuation <|> (do return [← escaped]) else failure)
  <|> (do
    lineBreak
    return ['\n'])

def linesEnd (quote : Char) : Reader (List Char) := fun rest =>
  let extra := (rest.takeWhile (· == quote)).length - 3
  if closes quote rest then some (rest.take (min extra 2), rest.drop (min extra 2 + 3)) else none

/-- Text on several lines, without the line break right behind the opening quotes. -/
def quotedLines (quote : Char) : Reader String := do
  word [quote, quote, quote]
  let _ ← optional lineBreak
  let content ← many (linesPiece quote)
  let last ← linesEnd quote
  return String.ofList (content.flatten ++ last)

def text : Reader String :=
  quotedLines '"' <|> quoted '"' <|> quotedLines '\'' <|> quoted '\''

end Esp3Host.Toml
