import Esp3Host.Text.Reader

/-!
# Blanks, line ends and comments

Inside a line there are blanks and tabs.  A line ends with a line feed, which a carriage return may
precede, and a comment runs up to the end of its line.
-/

namespace Esp3Host.Toml

def isSpace (c : Char) : Bool := c == ' ' || c == '\t'

def isTextual (c : Char) : Bool := c == '\t' || (0x20 ≤ c.toNat && c.toNat != 0x7F)

def skipSpaces : Reader Unit := do
  let _ ← Reader.takeWhile isSpace

def lineBreak : Reader Unit
  | '\n' :: rest => some ((), rest)
  | '\r' :: '\n' :: rest => some ((), rest)
  | _ => none

def comment : Reader Unit := do
  Reader.exactly '#'
  let _ ← Reader.takeWhile isTextual

def lineEnd : Reader Unit
  | [] => some ((), [])
  | rest => lineBreak rest

def lineRest : Reader Unit := do
  skipSpaces
  let _ ← optional comment
  lineEnd

def dropSpacesAndBreaks : List Char → List Char
  | ' ' :: rest => dropSpacesAndBreaks rest
  | '\t' :: rest => dropSpacesAndBreaks rest
  | '\n' :: rest => dropSpacesAndBreaks rest
  | '\r' :: '\n' :: rest => dropSpacesAndBreaks rest
  | rest => rest

def dropFiller (inComment : Bool) : List Char → List Char
  | '\n' :: rest => dropFiller false rest
  | '\r' :: '\n' :: rest => dropFiller false rest
  | c :: rest =>
      if inComment then if isTextual c then dropFiller true rest else c :: rest
      else if isSpace c then dropFiller false rest
      else if c == '#' then dropFiller true rest
      else c :: rest
  | [] => []

def skipFiller : Reader Unit := fun rest => some ((), dropFiller false rest)

end Esp3Host.Toml
