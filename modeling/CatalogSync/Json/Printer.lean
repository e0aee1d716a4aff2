import CatalogSync.Decimal.Layout
import CatalogSync.Json.Basic
import CatalogSync.Text.Hexadecimal

/-!
# JSON text

Two printers: the compact one, which puts no blank between tokens, and the indented one, which
puts every item and member on a line of its own. Both write objects in the order their members
are listed. Neither ever writes a raw control character inside a string.
-/

namespace CatalogSync.Json

/-- One character inside a JSON string. -/
def escapeChar (c : Char) : List Char :=
  if c = '"' then ['\\', '"']
  else if c = '\\' then ['\\', '\\']
  else if c.toNat < 0x20 then
    match c.toNat with
    | 8 => ['\\', 'b']
    | 9 => ['\\', 't']
    | 10 => ['\\', 'n']
    | 12 => ['\\', 'f']
    | 13 => ['\\', 'r']
    | n => ['\\', 'u', '0', '0', Text.Hexadecimal.digit (n / 16), Text.Hexadecimal.digit n]
  else [c]

/-- A JSON string. -/
def writeString (s : String) : List Char := '"' :: s.toList.flatMap escapeChar ++ ['"']

/-- A whole number. -/
def writeInt (n : Int) : List Char :=
  if n < 0 then '-' :: Nat.toDigits 10 n.natAbs else Nat.toDigits 10 n.natAbs

mutual

/-- Compact text. -/
def write : Json → List Char
  | null => ['n', 'u', 'l', 'l']
  | bool true => ['t', 'r', 'u', 'e']
  | bool false => ['f', 'a', 'l', 's', 'e']
  | int n => writeInt n
  | float x => Decimal.Layout.json.write x
  | str s => writeString s
  | arr [] => ['[', ']']
  | arr (j :: rest) => '[' :: write j ++ writeItems rest
  | obj [] => ['\x7b', '\x7d']
  | obj ((name, j) :: rest) => '\x7b' :: writeString name ++ ':' :: write j ++ writeMembers rest

/-- The items after the first, and the closing bracket. -/
def writeItems : List Json → List Char
  | [] => [']']
  | j :: rest => ',' :: write j ++ writeItems rest

/-- The members after the first, and the closing brace. -/
def writeMembers : List (String × Json) → List Char
  | [] => ['\x7d']
  | (name, j) :: rest => ',' :: writeString name ++ ':' :: write j ++ writeMembers rest

end

/-- The compact text of a value. -/
def compact (j : Json) : String := String.ofList (write j)

/-- A new line at a nesting depth, indented by two spaces for each level. -/
def newline (depth : Nat) : List Char := '\n' :: List.replicate (2 * depth) ' '

mutual

/-- Indented text of a value at a nesting depth. -/
def writeIndented (depth : Nat) : Json → List Char
  | arr (j :: rest) =>
    '[' :: newline (depth + 1) ++ writeIndented (depth + 1) j ++ writeIndentedItems depth rest
  | obj ((name, j) :: rest) =>
    '\x7b' :: newline (depth + 1) ++ writeString name ++ ':' :: ' ' :: writeIndented (depth + 1) j
      ++ writeIndentedMembers depth rest
  | scalar => write scalar

/-- The items after the first, and the closing bracket. -/
def writeIndentedItems (depth : Nat) : List Json → List Char
  | [] => newline depth ++ [']']
  | j :: rest =>
    ',' :: newline (depth + 1) ++ writeIndented (depth + 1) j ++ writeIndentedItems depth rest

/-- The members after the first, and the closing brace. -/
def writeIndentedMembers (depth : Nat) : List (String × Json) → List Char
  | [] => newline depth ++ ['\x7d']
  | (name, j) :: rest =>
    ',' :: newline (depth + 1) ++ writeString name ++ ':' :: ' ' :: writeIndented (depth + 1) j
      ++ writeIndentedMembers depth rest

end

/-- The indented text of a value. -/
def indented (j : Json) : String := String.ofList (writeIndented 0 j)

end CatalogSync.Json
