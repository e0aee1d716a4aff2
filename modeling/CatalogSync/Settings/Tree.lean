import CatalogSync.Decimal.Reader
import CatalogSync.Json.Basic

/-!
# Trees of settings

Settings come in layers of named values. A layer is put over a tree key by key: a table is merged
into the table under its name, anything else replaces what is there. Names are compared in lower
case. A key at the top of a layer may be an address that leads through tables and lists.
-/

namespace CatalogSync.SettingsTree

/-- A name in lower case. Of the characters beyond ASCII only the Kelvin sign has an ASCII letter
for its lower case; the names of settings are ASCII. -/
def lowered (name : String) : String :=
  String.ofList (name.toList.map fun c => if c = '\u212a' then 'k' else c.toLower)

/-- The members of a table; what is no table has none. -/
def members : Json → List (String × Json)
  | .obj ms => ms
  | _ => []

/-- What is under a name of a table. -/
def get? (tree : Json) (name : String) : Option Json := (members tree).lookup name

/-- The table with a value under a name; what is no table becomes one. -/
def set (tree : Json) (name : String) (value : Json) : Json :=
  .obj (Json.insertMember name value (members tree))

mutual

/-- Put a value over what is under a name. -/
def put (tree : Json) (name : String) : Json → Json
  | .obj ms => set tree (lowered name) (putAll ((get? tree (lowered name)).getD (.obj [])) ms)
  | value => set tree (lowered name) value

/-- Put every member over a tree. -/
def putAll (tree : Json) : List (String × Json) → Json
  | [] => tree
  | (name, value) :: rest => putAll (put tree name value) rest

end

/-- One step of an address. -/
inductive Step where
  | name (name : String)
  /-- A place in a list; a negative one counts from the end. -/
  | index (position : Int)
  deriving DecidableEq, Repr

/-- The characters of a name in an address. -/
def isNameChar (c : Char) : Bool := c.isAlphanum || c = ' ' || c = '_' || c = '-'

def isBlank (c : Char) : Bool := c = ' ' || c = '\t'

/-- A place in a list as it is spelled: digits, perhaps with a minus sign, of a number that fits 64
bits with a sign. -/
def readPosition? (cs : List Char) : Option (Int × List Char) := do
  let (negative, rest) := match cs with
    | '-' :: rest => (true, rest)
    | rest => (false, rest)
  let n ← Decimal.readNat? (rest.takeWhile Char.isDigit)
  let position : Int := if negative then -n else n
  if Int64.minValue.toInt ≤ position ∧ position ≤ Int64.maxValue.toInt then
    some (position, rest.dropWhile Char.isDigit)
  else none

/-- The rest of an address, in at most `fuel` steps. -/
def readSteps : (fuel : Nat) → List Char → Option (List Step)
  | _, [] => some []
  | 0, _ => none
  | fuel + 1, '.' :: rest =>
    let name := rest.takeWhile isNameChar
    if name = [] then none
    else do
      let steps ← readSteps fuel (rest.dropWhile isNameChar)
      some (.name (String.ofList name) :: steps)
  | fuel + 1, '[' :: rest => do
    let (position, rest) ← readPosition? (rest.dropWhile isBlank)
    match rest.dropWhile isBlank with
    | ']' :: rest =>
      let steps ← readSteps fuel rest
      some (.index position :: steps)
    | _ => none
  | _ + 1, _ => none

/-- The address that a key spells. A key that spells none is a name. -/
def address (key : String) : List Step :=
  match readSteps (key.length + 1) ('.' :: key.toList) with
  | some steps => steps
  | none => [.name key]

/-- A list with the element at a position changed; it is filled up with `null` to get there. -/
def setIndex (items : List Json) (position : Int) (f : Json → Json) : List Json :=
  let missing (length : Nat) : List Json := List.replicate (length - items.length) .null
  match position with
  | .ofNat n => (items ++ missing (n + 1)).modify n f
  -- the element with `n` elements behind it
  | .negSucc n => (missing (n + 1) ++ items).modify (items.length - (n + 1)) f

/-- Put a value at an address. What is in the way becomes a table or a list. -/
def putAt (value : Json) : List Step → Json → Json
  | [], _ => value
  | [.name name], tree => put tree name value
  | .name name :: rest, tree =>
    let below := (get? tree (lowered name)).getD .null
    set tree (lowered name) (putAt value rest below)
  | .index position :: rest, tree =>
    let items := match tree with
      | .arr items => items
      | _ => []
    .arr (setIndex items position (putAt value rest))

/-- Put a layer over a tree. -/
def withLayer (tree : Json) (layer : List (String × Json)) : Json :=
  layer.foldl (fun tree m => putAt m.2 (address m.1) tree) tree

/-- The tree of some layers, the lowest first. -/
def ofLayers (layers : List (List (String × Json))) : Json := layers.foldl withLayer (.obj [])

end CatalogSync.SettingsTree
