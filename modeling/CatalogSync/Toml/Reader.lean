import CatalogSync.Toml.Lexeme
import CatalogSync.Toml.Table

/-!
# Reading TOML documents

A document is read line by line into one table. Dates and times become texts; lists and tables in
values may nest up to `maxDepth`.
-/

namespace CatalogSync.Toml

/-- How deep values may nest, and one more than the parts a key may have. -/
def maxDepth : Nat := 80

/-- What is left after blanks, newlines and comments between the items of a list. -/
def skipLines : (fuel : Nat) → List Char → List Char
  | 0, cs => cs
  | fuel + 1, cs =>
    match skipBlanks cs with
    | '\n' :: rest => skipLines fuel rest
    | '\r' :: '\n' :: rest => skipLines fuel rest
    | '#' :: rest => skipLines fuel (skipComment ('#' :: rest))
    | rest => rest

mutual

/-- A value with what is left behind it, in `fuel` steps, with `depth` levels to spare. -/
def readValue? : (fuel depth : Nat) → List Char → Option (Json × List Char)
  | 0, _, _ => none
  | fuel + 1, depth, cs =>
    match cs with
    | 't' :: 'r' :: 'u' :: 'e' :: rest => some (.bool true, rest)
    | 'f' :: 'a' :: 'l' :: 's' :: 'e' :: rest => some (.bool false, rest)
    | '[' :: rest =>
      match depth with
      | 0 => none
      | depth + 1 => do
        let (items, left) ← readItems? fuel depth rest
        some (.arr items, left)
    | '\x7b' :: rest =>
      match depth, skipBlanks rest with
      | 0, _ => none
      | _ + 1, '\x7d' :: left => some (.obj [], left)
      | depth + 1, rest => do
        let (item, left) ← readPairs? fuel depth (.table .defined []) rest
        some (item.toJson, left)
    | c :: _ =>
      if c = '"' ∨ c = '\'' then do
        let (s, left) ← readString? cs
        some (.str s, left)
      else if startsMoment cs then do
        let (s, left) ← readMoment? cs
        some (.str s, left)
      else readNumber? cs
    | [] => none

/-- The items of a list and its closing bracket. A comma may stand behind the last item. -/
def readItems? : (fuel depth : Nat) → List Char → Option (List Json × List Char)
  | 0, _, _ => none
  | fuel + 1, depth, cs =>
    match skipLines (cs.length + 1) cs with
    | ']' :: left => some ([], left)
    | rest => do
      let (j, rest) ← readValue? fuel depth rest
      match skipLines (rest.length + 1) rest with
      | ',' :: rest =>
        let (items, left) ← readItems? fuel depth rest
        some (j :: items, left)
      | ']' :: left => some ([j], left)
      | _ => none

/-- One or more pairs of a table in a value, and its closing brace. -/
def readPairs? : (fuel depth : Nat) → Item → List Char → Option (Item × List Char)
  | 0, _, _, _ => none
  | fuel + 1, depth, table, cs => do
    let (key, rest) ← readKey? (maxDepth - 1) cs
    match rest with
    | '=' :: rest =>
      let (j, rest) ← readValue? fuel depth (skipBlanks rest)
      let table ← table.assign key (.value j)
      match skipBlanks rest with
      | ',' :: rest => readPairs? fuel depth table rest
      | '\x7d' :: left => some (table, left)
      | _ => none
    | _ => none

end

/-- A document as far as it was read. -/
structure Document where
  root : Item
  /-- The header that the keys to come stand under. -/
  header : List String

/-- A header after its opening brackets. -/
def readHeader? (close : List Char) (cs : List Char) : Option (List String × List Char) := do
  let (key, rest) ← readKey? (maxDepth - 1) cs
  if close.isPrefixOf rest then some (key, rest.drop close.length) else none

/-- One line, or one key whose value runs over several lines. -/
def readLine? (d : Document) (cs : List Char) : Option (Document × List Char) :=
  match skipBlanks cs with
  | '[' :: '[' :: rest => do
    let (key, rest) ← readHeader? [']', ']'] rest
    let root ← d.root.defineNext key
    some (⟨root, key⟩, ← restOfLine? rest)
  | '[' :: rest => do
    let (key, rest) ← readHeader? [']'] rest
    let root ← d.root.define key
    some (⟨root, key⟩, ← restOfLine? rest)
  | rest =>
    match restOfLine? rest with
    | some left => some (d, left)
    | none => do
      let (key, rest) ← readKey? (maxDepth - 1) rest
      match rest with
      | '=' :: rest =>
        let (j, rest) ← readValue? (2 * rest.length + 2) (maxDepth - 1) (skipBlanks rest)
        let root ← d.root.assignUnder d.header key (.value j)
        some ({ d with root }, ← restOfLine? rest)
      | _ => none

/-- Lines up to the end of the text, at most `fuel` of them. -/
def readLines? : (fuel : Nat) → Document → List Char → Option Document
  | _, d, [] => some d
  | 0, _, _ => none
  | fuel + 1, d, cs => do
    let (d, rest) ← readLine? d cs
    readLines? fuel d rest

/-- The table that a document spells. -/
def parse? (text : String) : Option Json := do
  let cs := text.toList
  let d ← readLines? (cs.length + 1) ⟨.table .defined [], []⟩ cs
  some d.root.toJson

end CatalogSync.Toml
