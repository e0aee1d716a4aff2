/-!
# Doubles as integers

A finite double is a sign, a whole mantissa and a power of two. Everything exact about doubles in
this library (the shortest decimal text, rounding to a whole number) is computed on that form.
-/

namespace CatalogSync.Decimal

/-- The number `mantissa * 2 ^ exponent`, negated if `negative`. -/
structure Binary where
  /-- Whether the sign bit is set; zero has a sign too. -/
  negative : Bool
  /-- At most 53 bits. -/
  mantissa : Nat
  /-- From -1074 upwards. -/
  exponent : Int
  deriving DecidableEq, Repr

/-- The parts of a double, or `none` for an infinity or a NaN. -/
def Binary.ofFloat? (x : Float) : Option Binary :=
  let bits := x.toBits.toNat
  let fraction := bits % Nat.pow 2 52
  let negative := bits / Nat.pow 2 63 = 1
  match bits / Nat.pow 2 52 % 2048 with
  | 2047 => none
  | 0 => some ⟨negative, fraction, -1074⟩
  | e => some ⟨negative, fraction + Nat.pow 2 52, e - 1075⟩

/-- The nearest whole number, halves away from zero; infinities and NaN stay, as does the sign. -/
def roundHalfAway (x : Float) : Float :=
  match Binary.ofFloat? x with
  | none => x
  | some ⟨negative, mantissa, exponent⟩ =>
    if 0 ≤ exponent then x
    else
      let places := (-exponent).toNat
      let whole := Float.ofNat ((mantissa + Nat.pow 2 (places - 1)) / Nat.pow 2 places)
      if negative then -whole else whole

end CatalogSync.Decimal
