/-!
# Instants and spans

Time is counted in nanoseconds.  An instant is a reading of a clock with an arbitrary origin, a
span is a length of time.  `Span.text` writes a span in its largest whole unit, with as many
decimals as it needs.
-/

namespace Esp3Host

abbrev Instant := Int

abbrev Span := Nat

namespace Instant

/-- The time passed since an earlier instant; nothing when the clock reads earlier. -/
def since (now earlier : Instant) : Span := (now - earlier).toNat

def after (start : Instant) (span : Span) : Instant := start + span

theorem after_after (start : Instant) (first second : Span) :
    (start.after first).after second = start.after (first + second) := by
  simp only [Instant, Span, after]
  omega

theorem after_le_after {first second : Instant} {short long : Span} (h : first ≤ second)
    (hspan : short ≤ long) : first.after short ≤ second.after long := by
  simp only [Instant, Span, after] at *
  omega

theorem le_after (start : Instant) (span : Span) : start ≤ start.after span := by
  simp only [Instant, after]
  omega

theorem le_since {now earlier : Instant} {span : Span} (h : earlier.after span ≤ now) :
    span ≤ now.since earlier := by
  simp only [Instant, Span, since, after] at *
  omega

theorem after_le_of_since {now earlier : Instant} {span : Span} (hpos : 0 < span)
    (h : span ≤ now.since earlier) : earlier.after span ≤ now := by
  simp only [Instant, Span, since, after] at *
  omega

end Instant

namespace Span

def ofSeconds (n : Nat) : Span := n * 1000000000

def ofMillis (n : Nat) : Span := n * 1000000

def seconds (span : Span) : Nat := span / 1000000000

def millis (span : Span) : Nat := span / 1000000

def longest : Span := ofSeconds (Nat.pow 2 64 - 1) + 999999999

def places : Nat → Nat → List Char
  | 0, _ => []
  | width + 1, part =>
      Char.ofNat (48 + part / Nat.pow 10 width % 10) :: places width part

def decimals (width part : Nat) : String :=
  let kept := ((places width part).reverse.dropWhile (· == '0')).reverse
  if kept.isEmpty then "" else "." ++ String.ofList kept

def text (span : Span) : String :=
  let nanos := span % 1000000000
  if 0 < seconds span then toString (seconds span) ++ decimals 9 nanos ++ "s"
  else if 1000000 ≤ nanos then toString (nanos / 1000000) ++ decimals 6 (nanos % 1000000) ++ "ms"
  else if 1000 ≤ nanos then toString (nanos / 1000) ++ decimals 3 (nanos % 1000) ++ "µs"
  else toString nanos ++ "ns"

end Span

end Esp3Host
