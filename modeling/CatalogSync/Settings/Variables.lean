import CatalogSync.Decimal.Reader
import CatalogSync.Settings.Tree

/-!
# Settings in environment variables

A variable named `ETL__SECTION__KEY`, in upper or lower case, sets one key. Its value is a truth
value, a whole number or a decimal if it reads as one, in this order, and a text otherwise.
-/

namespace CatalogSync.Variables

/-- What the names of the variables begin with. -/
def nameStart : List Char := "etl__".toList

/-- A name with every pair of underscores replaced by a point. -/
def pointed : List Char → List Char
  | '_' :: '_' :: rest => '.' :: pointed rest
  | c :: rest => c :: pointed rest
  | [] => []

/-- The key that a variable sets, if it sets one. -/
def key? (name : String) : Option String :=
  let cs := (SettingsTree.lowered name).toList
  if nameStart.isPrefixOf cs then some (String.ofList (pointed (cs.drop nameStart.length)))
  else none

/-- Whether a whole number fits 64 bits with a sign. -/
def fitsInt64 (n : Int) : Bool := -Int.pow 2 63 ≤ n && n < Int.pow 2 63

/-- The value that a variable's text stands for. -/
def value (text : String) : Json :=
  let word := SettingsTree.lowered text
  if word = "true" then .bool true
  else if word = "false" then .bool false
  else
    match (Decimal.readInt? text.toList).filter fitsInt64 with
    | some n => .int n
    | none =>
      match Decimal.readFloat? text.toList with
      | some x => .float x
      | none => .str text

/-- The layer that variables make. -/
def layer (environment : List (String × String)) : List (String × Json) :=
  environment.filterMap fun (name, text) => (key? name).map fun key => (key, value text)

end CatalogSync.Variables
