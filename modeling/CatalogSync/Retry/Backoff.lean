import CatalogSync.Error

/-!
# Backoff

Pauses between the attempts of one operation. The first pause is the start, each later one is the
one before times a factor, and no pause exceeds the border. Once a pause has come within a factor
of the border the next one is the border. Pauses are held in whole nanoseconds.
-/

namespace CatalogSync

/-- A span of time in whole nanoseconds. -/
abbrev Span := Nat

def Span.ofMicros (n : Nat) : Span := n * 1000

def Span.ofMillis (n : Nat) : Span := n * 1000000

def Span.ofSeconds (n : Nat) : Span := n * 1000000000

/-- The arithmetic by which a factor makes a span grow. -/
class Growth (φ : Type) where
  /-- Whether the span is at least the border divided by the factor. -/
  nears : φ → (border span : Span) → Bool
  /-- The span times the factor, truncated. -/
  grow : φ → Span → Span
  /-- The span as this arithmetic holds it. -/
  hold : φ → Span → Span

/-- A span in doubles; seconds and the rest are converted apart. -/
def Span.toFloat (s : Span) : Float :=
  (Float.ofNat (s / 1000000000)) * 1000000000 + Float.ofNat (s % 1000000000)

/-- The whole nanoseconds in a double; what is negative or no number counts as none. -/
def Span.ofFloat (x : Float) : Span :=
  (x / 1000000000).toUInt64.toNat * 1000000000 + x.toUInt64.toNat % 1000000000

instance : Growth Float where
  nears factor border span := border.toFloat / factor ≤ span.toFloat
  grow factor span := Span.ofFloat (span.toFloat * factor)
  hold _ span := Span.ofFloat span.toFloat

/-- How an operation is retried. -/
structure Policy (φ : Type) where
  start : Span
  factor : φ
  border : Span
  /-- Give up after this many failed attempts; never, if there is no limit. -/
  maxAttempts : Option Nat

/-- A tenth of a second, doubled up to half a minute, without end. -/
def Policy.standard : Policy Float := ⟨.ofMillis 100, 2, .ofSeconds 30, none⟩

/-- What an observer is told before each pause. -/
structure Notice where
  operation : String
  /-- Failed attempts so far. -/
  attempt : Nat
  delay : Span
  error : String
  deriving DecidableEq, Repr

/-- Where the retries of one operation stand. -/
structure Backoff (φ : Type) where
  policy : Policy φ
  operation : String
  /-- Failed attempts so far. -/
  attempts : Nat
  /-- The pause to come, before it is capped. -/
  current : Span

variable {φ : Type} [Growth φ]

def Policy.backoff (p : Policy φ) (operation : String) : Backoff φ := ⟨p, operation, 0, p.start⟩

namespace Backoff

/-- The pause after this one. -/
def next (b : Backoff φ) : Span :=
  if Growth.nears b.policy.factor b.policy.border b.current then b.policy.border
  else Growth.grow b.policy.factor b.current

/-- Whether this failed attempt is the last. -/
def isExhausted (b : Backoff φ) : Bool :=
  match b.policy.maxAttempts with
  | some max => max ≤ b.attempts
  | none => false

/-- The pause to come. -/
def delay (b : Backoff φ) : Span := min (Growth.hold b.policy.factor b.current) b.policy.border

/-- Count a failed attempt. The notice of the pause that follows, unless it was the last. -/
def pause (b : Backoff φ) (error : String) : Option Notice × Backoff φ :=
  let b := { b with attempts := b.attempts + 1 }
  if b.isExhausted then (none, b)
  else (some ⟨b.operation, b.attempts, b.delay, error⟩, { b with current := b.next })

/-- Forget the failed attempts. -/
def reset (b : Backoff φ) : Backoff φ := { b with attempts := 0, current := b.policy.start }

end Backoff

end CatalogSync
