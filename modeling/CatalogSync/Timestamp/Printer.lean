import CatalogSync.Timestamp.Basic

/-!
# Timestamp text

RFC 3339 text of a timestamp. The fraction has no digits, or three, six or nine, whichever is the
least that loses nothing. A year outside four digits carries its sign. The zone is written `Z` in
data and `+00:00` in messages.
-/

namespace CatalogSync.Timestamp

/-- A number with at least `width` digits. -/
def padded (width n : Nat) : List Char :=
  let digits := Nat.toDigits 10 n
  List.replicate (width - digits.length) '0' ++ digits

def writeYear (year : Int) : List Char :=
  if 0 ≤ year ∧ year ≤ 9999 then padded 4 year.toNat
  else (if year < 0 then '-' else '+') :: padded 4 year.natAbs

/-- The fraction of a second behind its point. -/
def writeFraction (nano : Nat) : List Char :=
  if nano = 0 then []
  else if nano % 1000000 = 0 then '.' :: padded 3 (nano / 1000000)
  else if nano % 1000 = 0 then '.' :: padded 6 (nano / 1000)
  else '.' :: padded 9 nano

/-- Date and time of day, without a zone. -/
def writeLocal (t : Timestamp) : List Char :=
  writeYear t.date.year ++ '-' :: padded 2 t.date.month ++ '-' :: padded 2 t.date.day
    ++ 'T' :: padded 2 (t.second / 3600) ++ ':' :: padded 2 (t.second / 60 % 60)
    ++ ':' :: padded 2 (t.second % 60 + t.nano / 1000000000) ++ writeFraction (t.nano % 1000000000)

/-- The timestamp as data. -/
def text (t : Timestamp) : String := String.ofList (t.writeLocal ++ ['Z'])

/-- The timestamp in a message. -/
def display (t : Timestamp) : String := String.ofList (t.writeLocal ++ "+00:00".toList)

end CatalogSync.Timestamp
