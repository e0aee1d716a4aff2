/-!
# JSON values

One value type for everything that is read or written as JSON. A number is whole or a double,
depending on how it is spelled, and the difference is visible in messages and in output.
-/

namespace CatalogSync

/-- A JSON value. The members of an object are listed in some order, names possibly repeated. -/
inductive Json where
  | null
  | bool (value : Bool)
  | int (value : Int)
  | float (value : Float)
  | str (value : String)
  | arr (items : List Json)
  | obj (members : List (String × Json))
  deriving Inhabited, Repr

namespace Json

/-- Put a member in its place by name; a member of the same name is replaced. -/
def insertMember (name : String) (value : Json) : List (String × Json) → List (String × Json)
  | [] => [(name, value)]
  | (n, v) :: rest =>
    if name < n then (name, value) :: (n, v) :: rest
    else if n < name then (n, v) :: insertMember name value rest
    else (name, value) :: rest

/-- Members in increasing order of names, of several with one name the last. -/
def sortMembers (members : List (String × Json)) : List (String × Json) :=
  members.foldl (fun sorted m => insertMember m.1 m.2 sorted) []

/-- An object with its members in order. -/
def object (members : List (String × Json)) : Json := obj (sortMembers members)

mutual

/-- The same value with the members of every object in order, each name once. -/
def canonical : Json → Json
  | arr items => arr (canonicalItems items)
  | obj members => object (canonicalMembers members)
  | scalar => scalar

/-- `canonical` on each item. -/
def canonicalItems : List Json → List Json
  | [] => []
  | j :: rest => canonical j :: canonicalItems rest

/-- `canonical` on each member's value. -/
def canonicalMembers : List (String × Json) → List (String × Json)
  | [] => []
  | (name, j) :: rest => (name, canonical j) :: canonicalMembers rest

end

/-- The value of a member of an object, the first of its name. -/
def member? (name : String) : Json → Option Json
  | obj members => members.lookup name
  | _ => none

end Json

end CatalogSync
