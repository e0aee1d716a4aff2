import CatalogSync.Text.Blank
import CatalogSync.Timestamp.Basic

/-!
# Reading timestamps

A lenient reader of RFC 3339 text. Numbers may lack their leading zeros, blanks may stand before a
number, a separator or the zone and at the end, a space or a `t` may stand for the `T`, and the
zone may be written in several ways. What it refuses has no seconds, no zone, or a part out of
range. The result is in UTC.
-/

namespace CatalogSync.Timestamp

open Text (trimStart isBlank)

/-- The number that digits spell. -/
def digitsValue (digits : List Char) : Nat :=
  digits.foldl (fun n d => 10 * n + (d.toNat - '0'.toNat)) 0

/-- One or more digits of any number, and what follows them. -/
def readAllDigits (cs : List Char) : Option (Nat × List Char) :=
  let digits := cs.takeWhile Char.isDigit
  if digits.isEmpty then none else some (digitsValue digits, cs.dropWhile Char.isDigit)

/-- One to `width` digits after blanks. -/
def readDigits (width : Nat) (cs : List Char) : Option (Nat × List Char) :=
  let cs := trimStart cs
  let digits := (cs.take width).takeWhile Char.isDigit
  if digits.isEmpty then none else some (digitsValue digits, cs.drop digits.length)

/-- Up to four digits, or a sign and any number of digits. -/
def readYear (cs : List Char) : Option (Int × List Char) :=
  match trimStart cs with
  | '-' :: rest => (readAllDigits rest).map fun (n, r) => (-n, r)
  | '+' :: rest => (readAllDigits rest).map fun (n, r) => (n, r)
  | cs => (readDigits 4 cs).map fun (n, r) => (n, r)

/-- A separator after blanks. -/
def readMark (c : Char) (cs : List Char) : Option (List Char) :=
  match trimStart cs with
  | c' :: rest => if c' = c then some rest else none
  | [] => none

/-- Year, month and day. -/
def readDate (cs : List Char) : Option (Date × List Char) := do
  let (year, cs) ← readYear cs
  let cs ← readMark '-' cs
  let (month, cs) ← readDigits 2 cs
  let cs ← readMark '-' cs
  let (day, cs) ← readDigits 2 cs
  let date ← Date.of? year month day
  some (date, cs)

/-- What separates date and time. -/
def readSeparator : List Char → Option (List Char)
  | 'T' :: rest => some rest
  | 't' :: rest => some rest
  | ' ' :: rest => some rest
  | _ => none

/-- The fraction of a second in nanoseconds; digits after the ninth are dropped. -/
def readFraction : List Char → Option (Nat × List Char)
  | '.' :: cs =>
    let digits := cs.takeWhile Char.isDigit
    if digits.isEmpty then none
    else
      let kept := digits.take 9
      some (digitsValue kept * Nat.pow 10 (9 - kept.length), cs.dropWhile Char.isDigit)
  | cs => some (0, cs)

/-- The time of day: seconds and nanoseconds. Second 60 is second 59 and a leap second. -/
def readTime (cs : List Char) : Option (Nat × Nat × List Char) := do
  let (hour, cs) ← readDigits 2 cs
  let cs ← readMark ':' cs
  let (minute, cs) ← readDigits 2 cs
  let cs ← readMark ':' cs
  let (second, cs) ← readDigits 2 cs
  let (nano, cs) ← readFraction cs
  if hour < 24 ∧ minute < 60 ∧ second ≤ 60 then
    let leap := second / 60
    some (hour * 3600 + minute * 60 + second - leap, nano + leap * 1000000000, cs)
  else none

/-- Exactly two digits. -/
def readTwoDigits : List Char → Option (Nat × List Char)
  | a :: b :: rest => if a.isDigit && b.isDigit then some (digitsValue [a, b], rest) else none
  | _ => none

/-- Hours and minutes behind the sign of a zone, in seconds. -/
def readHoursMinutes (cs : List Char) : Option (Nat × List Char) := do
  let (hours, cs) ← readTwoDigits cs
  let (minutes, cs) ← readTwoDigits (cs.dropWhile fun c => c = ':' || isBlank c)
  if hours < 24 ∧ minutes < 60 then some (hours * 3600 + minutes * 60, cs) else none

/-- The zone, in seconds east of UTC. -/
def readZone (cs : List Char) : Option (Int × List Char) :=
  match cs with
  | 'Z' :: rest => some (0, rest)
  | 'z' :: rest => some (0, rest)
  | '+' :: rest => (readHoursMinutes rest).map fun (n, r) => (n, r)
  | '-' :: rest => (readHoursMinutes rest).map fun (n, r) => (-n, r)
  | '\u2212' :: rest => (readHoursMinutes rest).map fun (n, r) => (-n, r)
  | a :: b :: c :: rest =>
    if [a, b, c].map Char.toUpper = ['U', 'T', 'C'] then some (0, rest) else none
  | _ => none

/-- The timestamp that a text spells, in UTC. -/
def read? (cs : List Char) : Option Timestamp := do
  let (date, cs) ← readDate cs
  let cs ← readSeparator cs
  let (second, nano, cs) ← readTime cs
  let (offset, cs) ← readZone (trimStart cs)
  if trimStart cs = [] then shift? date second nano offset else none

/-- The timestamp that a string spells, in UTC. -/
def parse? (s : String) : Option Timestamp := read? s.toList

end CatalogSync.Timestamp
