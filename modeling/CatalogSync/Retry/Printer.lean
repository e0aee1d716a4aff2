import CatalogSync.Decimal.Layout
import CatalogSync.Retry.Backoff

/-!
# Policies in words

How a span of time and a retry policy are shown to a person.
-/

namespace CatalogSync

/-- A whole number and a remainder below `10 ^ width` as a decimal, without needless zeros. -/
def decimalText (whole remainder width : Nat) : String :=
  let digits := Nat.toDigits 10 remainder
  let padded := List.replicate (width - digits.length) '0' ++ digits
  let kept := (padded.reverse.dropWhile (· = '0')).reverse
  if kept = [] then toString whole else toString whole ++ "." ++ String.ofList kept

/-- A span in the largest unit of which it holds at least one. -/
def Span.text (s : Span) : String :=
  if 1000000000 ≤ s then decimalText (s / 1000000000) (s % 1000000000) 9 ++ "s"
  else if 1000000 ≤ s then decimalText (s / 1000000) (s % 1000000) 6 ++ "ms"
  else if 1000 ≤ s then decimalText (s / 1000) (s % 1000) 3 ++ "µs"
  else toString s ++ "ns"

/-- A policy with nobody watching its retries. -/
def Policy.text (p : Policy Float) : String :=
  let attempts := match p.maxAttempts with
    | some max => s!"Some({max})"
    | none => "None"
  "RetryPolicy \x7b start: " ++ Span.text p.start ++ ", factor: " ++
    Decimal.Layout.described.text p.factor ++ ", border: " ++ Span.text p.border ++
    ", max_attempts: " ++ attempts ++ ", observer: false \x7d"

end CatalogSync
