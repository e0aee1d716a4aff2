import CatalogSync.Json.Basic

/-!
# TOML tables

A document builds one table, key by key and header by header. A table is defined once: by a
header, by the keys that lead through it, or as a value. What was defined one way is not added to
in another, and no key is set twice.
-/

namespace CatalogSync.Toml

/-- How a table came to be. -/
inductive TableKind where
  /-- A header led through it. -/
  | implicit
  /-- A key led through it. -/
  | dotted
  /-- A header named it. -/
  | defined
  deriving DecidableEq, Repr

/-- What is under a name while a document is read. -/
inductive Item where
  | value (value : Json)
  | table (kind : TableKind) (members : List (String × Item))
  /-- The tables of a list, the last one first. -/
  | tables (elements : List Item)
  deriving Inhabited

namespace Item

mutual

/-- The value that an item is in the end. -/
def toJson : Item → Json
  | value j => j
  | table _ members => .object (membersToJson members)
  | tables elements => .arr (elementsToJson elements).reverse

def membersToJson : List (String × Item) → List (String × Json)
  | [] => []
  | (name, item) :: rest => (name, toJson item) :: membersToJson rest

def elementsToJson : List Item → List Json
  | [] => []
  | item :: rest => toJson item :: elementsToJson rest

end

/-- Members with one of them replaced or added at the end. -/
def setMember (name : String) (item : Item) : List (String × Item) → List (String × Item)
  | [] => [(name, item)]
  | (n, i) :: rest => if n = name then (n, item) :: rest else (n, i) :: setMember name item rest

/-- Change the table at the end of a path. Tables that are not there are made on the way. A path
of keys does not lead through a table that a header has named. -/
def within (made : TableKind) (change : TableKind → List (String × Item) → Option Item) :
    List String → Item → Option Item
  | [], table kind members => change kind members
  | name :: rest, table kind members => do
    let child ← match members.lookup name with
      | none => within made change rest (table made [])
      | some (table .defined ms) =>
        if made = .dotted then none else within made change rest (table .defined ms)
      | some (table k ms) => within made change rest (table k ms)
      | some (tables (last :: earlier)) => do
        let last ← within made change rest last
        some (tables (last :: earlier))
      | some _ => none
    some (table kind (setMember name child members))
  | _, _ => none

/-- Put an item under a name that is free. A key with points belongs to a table that such keys
made, and one without to any other. -/
def putNew (dottedKey : Bool) (name : String) (item : Item) (kind : TableKind)
    (members : List (String × Item)) : Option Item :=
  if (decide (kind = .dotted)) != dottedKey then none
  else if (members.lookup name).isSome then none
  else some (table kind (setMember name item members))

/-- Set a key, from a table that is named by a header or is a value. -/
def assign (root : Item) (key : List String) (item : Item) : Option Item := do
  let name ← key.getLast?
  let path := key.dropLast
  within .dotted (putNew (!path.isEmpty) name item) path root

/-- Define the table of a header. One that headers only led through is taken over. -/
def define (root : Item) (key : List String) : Option Item := do
  let name ← key.getLast?
  within .implicit (fun kind members =>
    match members.lookup name with
    | none => some (table kind (setMember name (table .defined []) members))
    | some (table .implicit ms) =>
      some (table kind (setMember name (table .defined ms) members))
    | some _ => none) key.dropLast root

/-- Add a table to the list of a header. -/
def defineNext (root : Item) (key : List String) : Option Item := do
  let name ← key.getLast?
  within .implicit (fun kind members =>
    match members.lookup name with
    | none => some (table kind (setMember name (tables [table .defined []]) members))
    | some (tables elements) =>
      some (table kind (setMember name (tables (table .defined [] :: elements)) members))
    | some _ => none) key.dropLast root

/-- Set a key in the table of a header. -/
def assignUnder (root : Item) (header key : List String) (item : Item) : Option Item :=
  within .implicit (fun kind members => (table kind members).assign key item) header root

end Item

end CatalogSync.Toml
