/-!
# Timestamps

Points in time in UTC, down to the nanosecond, on the proleptic Gregorian calendar. A leap second
is the sixtieth second of its minute: it is held as second 59 with a nanosecond count of `10 ^ 9`
or more. Timestamps are ordered part by part from the year down, which is the order of time.
-/

namespace CatalogSync

/-- The years divisible by four, except full centuries that four hundred does not divide. -/
def isLeapYear (year : Int) : Bool := year % 4 = 0 && (year % 100 ≠ 0 || year % 400 = 0)

def daysInMonth (year : Int) (month : Nat) : Nat :=
  if month = 2 then (if isLeapYear year then 29 else 28)
  else if month = 4 ∨ month = 6 ∨ month = 9 ∨ month = 11 then 30
  else 31

/-- A day of the calendar, in the years that a timestamp can have. -/
structure Date where
  year : Int
  month : Nat
  day : Nat
  year_mem : -262143 ≤ year ∧ year ≤ 262142
  month_mem : 1 ≤ month ∧ month ≤ 12
  day_mem : 1 ≤ day ∧ day ≤ daysInMonth year month
  deriving DecidableEq

namespace Date

/-- The day with these numbers, if the calendar has it. -/
def of? (year : Int) (month day : Nat) : Option Date :=
  if h : (-262143 ≤ year ∧ year ≤ 262142) ∧ (1 ≤ month ∧ month ≤ 12)
      ∧ (1 ≤ day ∧ day ≤ daysInMonth year month) then
    some ⟨year, month, day, h.1, h.2.1, h.2.2⟩
  else none

/-- The day after. -/
def next? (d : Date) : Option Date :=
  if d.day < daysInMonth d.year d.month then of? d.year d.month (d.day + 1)
  else if d.month < 12 then of? d.year (d.month + 1) 1
  else of? (d.year + 1) 1 1

/-- The day before. -/
def previous? (d : Date) : Option Date :=
  if 1 < d.day then of? d.year d.month (d.day - 1)
  else if 1 < d.month then of? d.year (d.month - 1) (daysInMonth d.year (d.month - 1))
  else of? (d.year - 1) 12 31

instance : Ord Date where
  compare a b := (compare a.year b.year).then ((compare a.month b.month).then (compare a.day b.day))

theorem of?_eq_some (d : Date) : of? d.year d.month d.day = some d := by
  simp only [of?, d.year_mem, d.month_mem, d.day_mem, and_self, ↓reduceDIte]

end Date

/-- A point in time: a day, the seconds since its start, and nanoseconds. -/
structure Timestamp where
  date : Date
  second : Nat
  nano : Nat
  second_lt : second < 86400
  nano_lt : nano < 1000000000 ∨ (second % 60 = 59 ∧ nano < 2000000000)
  deriving DecidableEq

namespace Timestamp

/-- The timestamp with these parts, if there is one. -/
def of? (date : Date) (second nano : Nat) : Option Timestamp :=
  if h : second < 86400 ∧ (nano < 1000000000 ∨ (second % 60 = 59 ∧ nano < 2000000000)) then
    some ⟨date, second, nano, h.1, h.2⟩
  else none

instance : Ord Timestamp where
  compare a b :=
    (compare a.date b.date).then ((compare a.second b.second).then (compare a.nano b.nano))

/-- The first moment of the first year. -/
def first : Timestamp where
  date := ⟨1, 1, 1, by decide, by decide, by decide⟩
  second := 0
  nano := 0
  second_lt := by decide
  nano_lt := by decide

instance : Inhabited Timestamp := ⟨first⟩

/-- The same clock reading some seconds east of UTC, as a time in UTC. Less than a day either
way. -/
def shift? (date : Date) (second nano : Nat) (offset : Int) : Option Timestamp :=
  let utc : Int := second - offset
  if utc < 0 then do of? (← date.previous?) (utc + 86400).toNat nano
  else if 86400 ≤ utc then do of? (← date.next?) (utc - 86400).toNat nano
  else of? date utc.toNat nano

theorem of?_eq_some (t : Timestamp) : of? t.date t.second t.nano = some t := by
  simp only [of?, t.second_lt, t.nano_lt, and_self, ↓reduceDIte]

end Timestamp

end CatalogSync
