import CatalogSync.Text.Percent

/-!
# Web addresses

Where a request goes: a server, and what it is asked for there. The path and the query of an address
may hold any character; on the wire they are percent-encoded, and the segments `.` and `..` of the
path are resolved.
-/

namespace CatalogSync.Http

/-- An address taken apart. -/
structure Url where
  /-- Host and port, without user and password. -/
  authority : String
  /-- Path and query as they are sent. -/
  target : String
  deriving DecidableEq, Repr

namespace Url

/-- What is never sent as it is. -/
def isReserved (c : Char) : Bool :=
  c.toNat < 0x20 || 0x7f ≤ c.toNat || c = ' ' || c = '"' || c = '<' || c = '>'

def isReservedInPath (c : Char) : Bool :=
  isReserved c || c = '#' || c = '?' || c = '`' || c = '\x7b' || c = '\x7d'

def isReservedInQuery (c : Char) : Bool := isReserved c || c = '#' || c = '\''

def isSeparator (c : Char) : Bool := c = '/' || c = '\\'

/-- A character sequence cut at separators; there is one more segment than separators. -/
def segments : List Char → List (List Char)
  | [] => [[]]
  | c :: rest =>
    if isSeparator c then [] :: segments rest
    else
      match segments rest with
      | s :: more => (c :: s) :: more
      | [] => [[c]]

/-- A segment with its dots spelled as dots. -/
def plainDots : List Char → List Char
  | '%' :: '2' :: e :: rest =>
    if e = 'e' || e = 'E' then '.' :: plainDots rest else '%' :: '2' :: plainDots (e :: rest)
  | c :: rest => c :: plainDots rest
  | [] => []
termination_by cs => cs.length

/-- Follow the segments of a path from where the ones before have led. The last segment stays, be
it empty, so that a path to a directory ends in a separator. -/
def resolve (reached : List (List Char)) : List (List Char) → List (List Char)
  | [] => reached
  | s :: rest =>
    let close (reached : List (List Char)) := if rest = [] then reached ++ [[]] else reached
    if plainDots s = ['.', '.'] then resolve (close reached.dropLast) rest
    else if plainDots s = ['.'] then resolve (close reached) rest
    else resolve (reached ++ [Text.Percent.encode isReservedInPath s]) rest

/-- The path of an address as it is sent. -/
def path (cs : List Char) : List Char :=
  let cs := match cs with
    | c :: rest => if isSeparator c then rest else cs
    | [] => []
  (resolve [] (segments cs)).flatMap ('/' :: ·)

/-- What stands behind the host: a path, a query if there is one, and a fragment, which is never
sent. -/
def targetOf (cs : List Char) : String :=
  let cs := cs.takeWhile (· ≠ '#')
  let query := match cs.dropWhile (· ≠ '?') with
    | [] => []
    | _ :: query => '?' :: Text.Percent.encode isReservedInQuery query
  String.ofList (path (cs.takeWhile (· ≠ '?')) ++ query)

/-- The rest behind the scheme of a web address. -/
def afterScheme? (cs : List Char) : Option (List Char) :=
  let scheme := String.ofList ((cs.takeWhile (· ≠ ':')).map Char.toLower)
  if scheme = "http" || scheme = "https" then some ((cs.dropWhile (· ≠ ':')).drop 1) else none

/-- Blanks and control characters, which may surround an address. -/
def isPadding (c : Char) : Bool := c.toNat ≤ 0x20

/-- A host and port without what stands before the last `@`. -/
def withoutUser (cs : List Char) : List Char := (cs.reverse.takeWhile (· ≠ '@')).reverse

/-- Read a web address. It has to have a host. -/
def parse? (s : String) : Option Url := do
  let cs := s.toList.dropWhile isPadding
  let cs := (cs.reverse.dropWhile isPadding).reverse
  let cs := cs.filter fun c => c ≠ '\t' && c ≠ '\n' && c ≠ '\r'
  let cs := (← afterScheme? cs).dropWhile isSeparator
  let ends (c : Char) : Bool := isSeparator c || c = '?' || c = '#'
  let authority := withoutUser (cs.takeWhile (!ends ·))
  if authority.takeWhile (· ≠ ':') = [] then none
  else some ⟨String.ofList (authority.map Char.toLower), targetOf (cs.dropWhile (!ends ·))⟩

end Url

end CatalogSync.Http
