import CatalogSync.Decimal.Shortest

/-!
# Number layouts

Where the digits of a shortest decimal go: with the point in place or with an exponent, and which
marks are kept. Each text this library writes has one layout.
-/

namespace CatalogSync.Decimal

/-- The decisions of one number format. -/
structure Layout where
  /-- Leading digits at `10 ^ e` with `low ≤ e < high` are written with the point in place. -/
  low : Int
  high : Int
  /-- Which of two decimals that are equally near is written. -/
  tie : Tie
  /-- Whether whole numbers end in `.0`. -/
  keepsPoint : Bool
  /-- Whether a positive exponent has its sign. -/
  signsExponent : Bool
  infinity : String
  negativeInfinity : String
  notANumber : String

/-- Numbers in JSON text: infinities and NaN have no number and are `null`. -/
def Layout.json : Layout :=
  ⟨-5, 16, .toEven, true, true, "null", "null", "null"⟩

/-- Numbers in a description of a value. -/
def Layout.described : Layout :=
  ⟨-4, 16, .awayFromZero, true, false, "inf", "-inf", "NaN"⟩

/-- Numbers in running text: never an exponent, and no point that is not needed. -/
def Layout.plain : Layout :=
  ⟨-400, 400, .awayFromZero, false, false, "inf", "-inf", "NaN"⟩

/-- The digits with the point in place. -/
def Layout.positional (l : Layout) (digits : List Char) (exponent : Int) : List Char :=
  if 0 ≤ exponent then
    digits ++ List.replicate exponent.toNat '0' ++ (if l.keepsPoint then ['.', '0'] else [])
  else
    let places := (-exponent).toNat
    if places < digits.length then
      digits.take (digits.length - places) ++ '.' :: digits.drop (digits.length - places)
    else '0' :: '.' :: List.replicate (places - digits.length) '0' ++ digits

/-- The digits after the leading one behind the point, and then the power of ten. -/
def Layout.scientific (l : Layout) (digits : List Char) (magnitude : Int) : List Char :=
  let mantissa := match digits with
    | [] => []
    | [d] => [d]
    | d :: rest => d :: '.' :: rest
  let sign := if magnitude < 0 then ['-'] else if l.signsExponent then ['+'] else []
  mantissa ++ 'e' :: sign ++ Nat.toDigits 10 magnitude.natAbs

/-- A double in this layout. -/
def Layout.write (l : Layout) (x : Float) : List Char :=
  match Binary.ofFloat? x with
  | none =>
    if x.isNaN then l.notANumber.toList
    else if x < 0 then l.negativeInfinity.toList
    else l.infinity.toList
  | some b =>
    let d := Digits.shortest l.tie b.mantissa b.exponent
    let digits := Nat.toDigits 10 d.digits
    let magnitude : Int := d.exponent + digits.length - 1
    let sign := if b.negative then ['-'] else []
    if d.digits = 0 ∨ (l.low ≤ magnitude ∧ magnitude < l.high) then
      sign ++ l.positional digits d.exponent
    else sign ++ l.scientific digits magnitude

/-- The text of a double in this layout. -/
def Layout.text (l : Layout) (x : Float) : String := String.ofList (l.write x)

end CatalogSync.Decimal
