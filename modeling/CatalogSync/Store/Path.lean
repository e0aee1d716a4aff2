/-!
# Paths

A path is the list of its names from the root down. The name `.` stands for the directory reached
so far and `..` for the one above it, so what a path leads to is a question to the file system;
here are only the parts of a path and what the operating system refuses unseen.
-/

namespace CatalogSync

/-- The names from the root down; the empty path is the root. -/
abbrev Path := List String

/-- Why the operating system refuses. -/
inductive FileFault where
  | notFound
  | busy
  | alreadyExists
  | notDirectory
  | isDirectory
  | invalidArgument
  | nameTooLong
  /-- A path with a zero byte never reaches the operating system. -/
  | zeroByte
  deriving DecidableEq, Repr

def FileFault.message : FileFault → String
  | notFound => "No such file or directory (os error 2)"
  | busy => "Device or resource busy (os error 16)"
  | alreadyExists => "File exists (os error 17)"
  | notDirectory => "Not a directory (os error 20)"
  | isDirectory => "Is a directory (os error 21)"
  | invalidArgument => "Invalid argument (os error 22)"
  | nameTooLong => "File name too long (os error 36)"
  | zeroByte => "file name contained an unexpected NUL byte"

namespace Path

/-- The path of a text whose names are separated by slashes. Between slashes, `.` and nothing at
all add no name; at the end they ask for a directory, which is kept as a last name `.`. The empty
text leads nowhere: there is nothing without a name. -/
def ofText (s : String) : Path :=
  let pieces := (s.toList.splitOn '/').map String.ofList
  let names := pieces.filter fun name => name ≠ "" ∧ name ≠ "."
  if s = "" then [""]
  else if names ≠ [] ∧ pieces.getLast? ≠ names.getLast? then names ++ ["."]
  else names

def text (p : Path) : String := "/".intercalate p

/-- The directory a path is in, going by its names alone. -/
def parent (p : Path) : Path :=
  if p.getLast? = some "." then p.dropLast.dropLast else p.dropLast

/-- The paths that a path begins with and itself, the shortest first. -/
def prefixes (p : Path) : List Path := (List.range p.length).map fun n => p.take (n + 1)

/-- How many bytes a name may have. -/
def maxName : Nat := 255

/-- How many bytes a whole path may have, a zero byte behind it included. -/
def maxBytes : Nat := 4096

/-- What is refused about a path whatever the file system holds. -/
def fault? (p : Path) : Option FileFault :=
  if p.any fun name => name.contains '\x00' then some .zeroByte
  else if maxBytes < p.text.utf8ByteSize + 2 then some .nameTooLong
  else none

end Path

end CatalogSync
