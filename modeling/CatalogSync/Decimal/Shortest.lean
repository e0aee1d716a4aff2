import CatalogSync.Decimal.Binary

/-!
# Shortest decimals

The decimal with the fewest digits that still reads back as the same double, and of those with
that many digits the one nearest to it. Two can be equally near; a format says which of them it
writes. The search is exact: a decimal reads back if it lies in the interval of reals that round
to the double, and on each grid of decimals only the two neighbours of the double can be the first
to lie there.
-/

namespace CatalogSync.Decimal

/-- The number `digits * 10 ^ exponent`. -/
structure Digits where
  digits : Nat
  exponent : Int
  deriving DecidableEq, Repr

/-- A positive fraction. -/
structure Ratio where
  num : Nat
  den : Nat

/-- `n * base ^ e` as a fraction. -/
def Ratio.scaled (n base : Nat) (e : Int) : Ratio :=
  if 0 ≤ e then ⟨n * base.pow e.toNat, 1⟩ else ⟨n, base.pow (-e).toNat⟩

def Ratio.le (a b : Ratio) : Bool := a.num * b.den ≤ b.num * a.den

def Ratio.lt (a b : Ratio) : Bool := a.num * b.den < b.num * a.den

/-- The reals that round to a positive double, with both ends included if its mantissa is even. -/
structure Interval where
  low : Ratio
  high : Ratio
  closed : Bool

/-- Halfway to the neighbours; below a power of two the neighbour is twice as near. -/
def Interval.around (mantissa : Nat) (exponent : Int) : Interval :=
  let below := if mantissa = Nat.pow 2 52 ∧ -1074 < exponent then 1 else 2
  { low := .scaled (4 * mantissa - below) 2 (exponent - 2)
    high := .scaled (4 * mantissa + 2) 2 (exponent - 2)
    closed := mantissa % 2 = 0 }

def Interval.contains (i : Interval) (r : Ratio) : Bool :=
  if i.closed then i.low.le r && r.le i.high else i.low.lt r && r.lt i.high

/-- The power of ten `e` with `10 ^ e ≤ r < 10 ^ (e + 1)`, found from `n` upwards. -/
def Ratio.magnitudeFrom (r : Ratio) (e : Int) : Nat → Int
  | 0 => e
  | n + 1 => if (Ratio.scaled 1 10 (e + 1)).le r then r.magnitudeFrom (e + 1) n else e

/-- The power of ten of a double's leading digit. -/
def Ratio.magnitude (r : Ratio) : Int :=
  let start : Int :=
    if r.den ≤ r.num then (Nat.toDigits 10 (r.num / r.den)).length - 1
    else -(Nat.toDigits 10 (r.den / r.num)).length - 1
  r.magnitudeFrom start 3

/-- Which of two equally near decimals is taken. -/
inductive Tie where
  | toEven
  | awayFromZero
  deriving DecidableEq, Repr

/-- Twice the distance between a grid point and the value tells which neighbour is nearer. -/
def nearerBelow (tie : Tie) (r : Ratio) (exponent : Int) (d : Nat) : Bool :=
  -- the midpoint `(2 d + 1) / 2 * 10 ^ exponent` against the value
  let mid := Ratio.scaled (2 * d + 1) 10 exponent
  let twice : Ratio := ⟨2 * r.num, r.den⟩
  twice.lt mid || (twice.le mid && tie = .toEven && d % 2 = 0)

/-- The best decimal with `count` digits that reads back, if there is one. -/
def onGrid (tie : Tie) (i : Interval) (r : Ratio) (magnitude : Int) (count : Nat) :
    Option Digits :=
  let exponent := magnitude - count + 1
  let unit := Ratio.scaled 1 10 exponent
  let d := r.num * unit.den / (r.den * unit.num)
  let hit (n : Nat) : Bool := 0 < n && i.contains (.scaled n 10 exponent)
  match hit d, hit (d + 1) with
  | true, true => some ⟨if nearerBelow tie r exponent d then d else d + 1, exponent⟩
  | true, false => some ⟨d, exponent⟩
  | false, true => some ⟨d + 1, exponent⟩
  | false, false => none

/-- Without the zeros at the end. -/
def Digits.stripped (d : Digits) : Nat → Digits
  | 0 => d
  | n + 1 => if d.digits % 10 = 0 then Digits.stripped ⟨d.digits / 10, d.exponent + 1⟩ n else d

/-- The shortest decimal of `mantissa * 2 ^ exponent`; seventeen digits always suffice. -/
def Digits.shortest (tie : Tie) (mantissa : Nat) (exponent : Int) : Digits :=
  if mantissa = 0 then ⟨0, 0⟩
  else
    let r := Ratio.scaled mantissa 2 exponent
    let i := Interval.around mantissa exponent
    let magnitude := r.magnitude
    let found := (List.range 17).findSome? fun n => onGrid tie i r magnitude (n + 1)
    (found.getD ⟨mantissa, 0⟩).stripped 17

end CatalogSync.Decimal
