import CatalogSync.Text.Hexadecimal

/-!
# Network addresses in numbers

Four decimal numbers with points between them, or eight hexadecimal groups with colons between
them, of which a run may be left out and the last two may be written as four decimal numbers.
-/

namespace CatalogSync.NetworkAddress

/-- A text cut at every occurrence of a separator. -/
def splitAt (separator : Char) : List Char → List (List Char)
  | [] => [[]]
  | c :: rest =>
    match splitAt separator rest with
    | part :: more => if c = separator then [] :: part :: more else (c :: part) :: more
    | [] => []

/-- A number below 256 without needless zeros. -/
def isOctet (cs : List Char) : Bool :=
  cs.all Char.isDigit && match cs with
    | [] => false
    | ['0'] => true
    | '0' :: _ => false
    | _ => cs.length ≤ 3 && (cs.foldl (fun n c => n * 10 + (c.toNat - '0'.toNat)) 0) ≤ 255

def isDotted (cs : List Char) : Bool :=
  let parts := splitAt '.' cs
  parts.length = 4 && parts.all isOctet

/-- One to four hexadecimal digits. -/
def isGroup (cs : List Char) : Bool :=
  cs ≠ [] && cs.length ≤ 4 && cs.all fun c => (Text.Hexadecimal.value? c).isSome

/-- How many groups a list of parts makes, if each is one; the last part may be dotted and then
makes two. -/
def groups? (dottedEnd : Bool) : List (List Char) → Option Nat
  | [] => some 0
  | [part] =>
    if isGroup part then some 1 else if dottedEnd && isDotted part then some 2 else none
  | part :: rest => if isGroup part then (groups? dottedEnd rest).map (· + 1) else none

/-- Groups separated by colons; an empty text holds none. -/
def groupsOf? (dottedEnd : Bool) (cs : List Char) : Option Nat :=
  if cs = [] then some 0 else groups? dottedEnd (splitAt ':' cs)

/-- What stands before and behind the first pair of colons. -/
def cutAtGap : List Char → Option (List Char × List Char)
  | ':' :: ':' :: rest => some ([], rest)
  | c :: rest => (cutAtGap rest).map fun (before, behind) => (c :: before, behind)
  | [] => none

def isGrouped (cs : List Char) : Bool :=
  match cutAtGap cs with
  | none => groupsOf? true cs = some 8
  | some (before, behind) =>
    match groupsOf? false before, groupsOf? true behind with
    | some n, some m => n + m ≤ 7
    | _, _ => false

/-- Whether a text is an address in numbers. -/
def isNumeric (s : String) : Bool := isDotted s.toList || isGrouped s.toList

end CatalogSync.NetworkAddress
