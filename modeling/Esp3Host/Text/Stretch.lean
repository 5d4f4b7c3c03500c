import Esp3Host.Text.Reader

/-!
# Places in a text

A stretch of a text is told by what follows its start and what follows its end, so that a reader
finds it without counting.  `Stretch.excerpt` is the line in which it begins, with the part of the
line that it covers.
-/

namespace Esp3Host

/-- The text from the start of a stretch on, and the text behind its end. -/
structure Stretch where
  start : List Char
  stop : List Char
  deriving DecidableEq, Repr

structure Located (α : Type) where
  value : α
  place : Option Stretch
  deriving Repr

namespace Stretch

def cover (first last : Stretch) : Stretch := ⟨first.start, last.stop⟩

end Stretch

def Reader.spanned {α : Type} (reader : Reader α) : Reader (α × Stretch) := fun rest => do
  let (value, rest') ← reader rest
  return ((value, ⟨rest, rest'⟩), rest')

def Reader.located {α : Type} (reader : Reader α) : Reader (Located α) := do
  let (value, place) ← reader.spanned
  return ⟨value, some place⟩

structure Excerpt where
  line : Nat
  content : List Char
  indent : Nat
  width : Nat
  deriving DecidableEq, Repr

def byteCount (cs : List Char) : Nat := cs.foldr (fun c n => c.utf8Size + n) 0

/--
The line in which a stretch of a text begins.  The mark is as wide as the stretch has bytes, but not
wider than the line, and never empty.
-/
def Stretch.excerpt (text : List Char) (stretch : Stretch) : Excerpt :=
  let before := text.take (text.length - stretch.start.length)
  let indent := (before.reverse.takeWhile (· != '\n')).reverse
  let content := indent ++ stretch.start.takeWhile (· != '\n')
  { line := before.count '\n' + 1
    content
    indent := indent.length
    width := max 1 (min (byteCount stretch.start - byteCount stretch.stop) (byteCount content)) }

namespace Excerpt

def lines (excerpt : Excerpt) : List String :=
  let number := toString excerpt.line
  let gutter := "".pushn ' ' (number.length + 1)
  [ s!"{gutter}|",
    s!"{number} | {String.ofList excerpt.content}",
    ((gutter ++ "|").pushn ' ' (excerpt.indent + 1)).pushn '^' excerpt.width ]

end Excerpt

end Esp3Host
