/-!
# Reading decimals

A decimal is read as a whole significand and a power of ten. There are two ways to a double.
`nearest` rounds once. `scale?` rounds the significand and then multiplies or divides by powers of
ten, rounded at every step, so that long significands and large powers may miss the nearest double
by a unit in the last place.
-/

namespace CatalogSync.Decimal

/-- The double nearest to a power of ten from `10 ^ 0` to `10 ^ 308`. -/
def powerOfTen (n : Nat) : Float := Float.ofScientific 1 false n

/-- A significand already rounded, times a power of ten; `none` beyond the largest double. -/
def scaleFrom? : (steps : Nat) → Float → Int → Option Float
  | 0, f, _ => some f
  | steps + 1, f, exponent =>
    if exponent.natAbs ≤ 308 then
      if 0 ≤ exponent then
        let product := f * powerOfTen exponent.natAbs
        if product.isInf then none else some product
      else some (f / powerOfTen exponent.natAbs)
    else if f == 0 then some f
    else if 0 ≤ exponent then none
    else scaleFrom? steps (f / powerOfTen 308) (exponent + 308)

/-- `significand * 10 ^ exponent` as a double; `none` beyond the largest double. -/
def scale? (significand : Nat) (exponent : Int) : Option Float :=
  scaleFrom? (exponent.natAbs / 308 + 1) (Float.ofNat significand) exponent

/-- The value of a run of digits put behind a number. -/
def ofDigits (start : Nat) (digits : List Char) : Nat :=
  digits.foldl (fun n d => 10 * n + (d.toNat - '0'.toNat)) start

/-- The double nearest to `significand * 10 ^ exponent`; an infinity beyond the largest double. -/
def nearest (significand : Nat) (exponent : Int) : Float :=
  let magnitude := exponent + (Nat.toDigits 10 significand).length
  if significand = 0 ∨ magnitude < -400 then 0
  else if 400 < magnitude then 1 / 0
  else Float.ofScientific significand (exponent < 0) exponent.natAbs

/-- A sign in front of a number, and what follows it. -/
def takeSign : List Char → Bool × List Char
  | '+' :: rest => (false, rest)
  | '-' :: rest => (true, rest)
  | rest => (false, rest)

/-- One or more digits and nothing else. -/
def readNat? (cs : List Char) : Option Nat :=
  if cs ≠ [] ∧ cs.all Char.isDigit then some (ofDigits 0 cs) else none

/-- A whole number with an optional sign. -/
def readInt? (cs : List Char) : Option Int := do
  let (negative, digits) := takeSign cs
  let n ← readNat? digits
  some (if negative then -n else n)

/-- The exponent behind a number: nothing, or a mark, an optional sign and digits. -/
def readPower? : List Char → Option Int
  | [] => some 0
  | c :: rest => if c = 'e' ∨ c = 'E' then readInt? rest else none

/-- A decimal without its sign. Digits may be missing on one side of the point. -/
def readUnsignedFloat? (cs : List Char) : Option Float := do
  let whole := cs.takeWhile Char.isDigit
  let rest := cs.dropWhile Char.isDigit
  let (fraction, rest) := match rest with
    | '.' :: rest => (rest.takeWhile Char.isDigit, rest.dropWhile Char.isDigit)
    | rest => ([], rest)
  if whole = [] ∧ fraction = [] then none
  else
    let power ← readPower? rest
    some (nearest (ofDigits 0 (whole ++ fraction)) (power - fraction.length))

/-- The decimal, infinity or NaN that a text spells, in upper or lower case. -/
def readFloat? (cs : List Char) : Option Float := do
  let (negative, rest) := takeSign cs
  let word := String.ofList (rest.map Char.toLower)
  let x ←
    if word = "inf" ∨ word = "infinity" then some (1 / 0)
    else if word = "nan" then some (0 / 0)
    else readUnsignedFloat? rest
  some (if negative then -x else x)

end CatalogSync.Decimal
