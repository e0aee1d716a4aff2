import CatalogSync.Decimal.Binary
import CatalogSync.Decimal.Reader
import CatalogSync.Settings.Basic
import CatalogSync.Settings.Tree

/-!
# Coerced settings

Settings files and variables may give a value in another type than the one that is wanted. Any
scalar is a text, texts are read as numbers, truth values count as 0 and 1, and decimals are
rounded to whole numbers.
-/

namespace CatalogSync.Coerced

/-- The whole number nearest to a decimal, from zero to the largest of 64 bits. -/
def roundedNat (x : Float) : Nat := (Decimal.roundHalfAway x).toUInt64.toNat

/-- A word for a truth value. -/
def truthWord? (s : String) : Option Nat :=
  let word := SettingsTree.lowered s
  if word ∈ ["true", "on", "yes"] then some 1
  else if word ∈ ["false", "off", "no"] then some 0
  else none

/-- A text as a whole number; a minus sign is not taken, not even before zero. -/
def natOfText? (s : String) : Option Nat :=
  match truthWord? s with
  | some n => some n
  | none =>
    match s.toList with
    | '+' :: digits => Decimal.readNat? digits
    | digits => Decimal.readNat? digits

def string : Decoder String
  | .str s => .ok s
  | .bool b => .ok (if b then "true" else "false")
  | .int n => .ok (toString n)
  | .float x => .ok (Decimal.Layout.plain.text x)
  | j => .error (.wrongType j "a string")

def float : Decoder Float
  | .float x => .ok x
  | .int n => .ok (Float.ofInt n)
  | .bool b => .ok (if b then 1 else 0)
  | .str s =>
    match truthWord? s with
    | some n => .ok (Float.ofNat n)
    | none =>
      match Decimal.readFloat? s.toList with
      | some x => .ok x
      | none => .error (.wrongType (.str s) "f64")
  | j => .error (.wrongType j "f64")

def natural (type : String) (high : Nat) : Decoder Nat := fun j =>
  let bounded (n : Nat) : Except DecodeError Nat :=
    if n ≤ high then .ok n else .error (.outOfRange j type)
  match j with
  | .int n => if 0 ≤ n then bounded n.toNat else .error (.outOfRange j type)
  | .float x => bounded (roundedNat x)
  | .bool b => .ok b.toNat
  | .str s =>
    match natOfText? s with
    | some n => bounded n
    | none => .error (.wrongType j type)
  | j => .error (.wrongType j type)

/-- A record; items of a list beyond its fields are ignored. -/
def record {α : Type} (type : String) (fields : Fields α) : Decoder α
  | .arr items => fields.decode type (.arr (items.take fields.checks.length))
  | j => fields.decode type j

def reading : Reading := ⟨string, float, natural, record⟩

end CatalogSync.Coerced
