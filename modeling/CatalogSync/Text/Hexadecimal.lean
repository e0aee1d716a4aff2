/-!
# Hexadecimal text

Digits to the base sixteen, in lower or upper case, and bytes written as two digits each.
-/

namespace CatalogSync.Text.Hexadecimal

def value? (c : Char) : Option Nat :=
  if '0' ≤ c ∧ c ≤ '9' then some (c.toNat - '0'.toNat)
  else if 'a' ≤ c ∧ c ≤ 'f' then some (c.toNat - 'a'.toNat + 10)
  else if 'A' ≤ c ∧ c ≤ 'F' then some (c.toNat - 'A'.toNat + 10)
  else none

/-- The digit of a number below sixteen; of a greater one only its last digit. -/
def digit (n : Nat) : Char := Nat.digitChar (n % 16)

theorem value?_digit (n : Nat) : value? (digit n) = some (n % 16) := by
  have h : n % 16 < 16 := Nat.mod_lt _ (by decide)
  have all : ∀ m : Fin 16, value? (Nat.digitChar m.val) = some m.val := by decide
  exact all ⟨n % 16, h⟩

/-- The byte of two digits. -/
def byte? (high low : Char) : Option UInt8 := do
  some ((← value? high) * 16 + (← value? low)).toUInt8

/-- The bytes of pairs of digits; none if there is anything else. -/
def bytes? : List Char → Option (List UInt8)
  | [] => some []
  | high :: low :: rest => do some ((← byte? high low) :: (← bytes? rest))
  | [_] => none

end CatalogSync.Text.Hexadecimal
