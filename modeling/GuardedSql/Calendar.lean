/-!
# Dates and times

Dates of the Gregorian calendar, times of day and the change from a local time to universal time.
The day moves by at most one, since offsets are below a day.
-/

namespace GuardedSql

structure Date where
  year : Int
  month : Nat
  day : Nat
deriving DecidableEq, Repr

/-- A time of day. A nanosecond count of a second or more stands for a leap second. -/
structure Time where
  hour : Nat
  minute : Nat
  second : Nat
  nanos : Nat
deriving DecidableEq, Repr

structure DateTime where
  date : Date
  time : Time
deriving DecidableEq, Repr

/-- The decimal digits of `n`, at least `width` of them. -/
def padded (width n : Nat) : String :=
  let digits := toString n
  String.ofList (List.replicate (width - digits.length) '0') ++ digits

namespace Date

def isLeap (year : Int) : Bool :=
  year % 4 = 0 && (year % 100 ≠ 0 || year % 400 = 0)

def daysIn (year : Int) (month : Nat) : Nat :=
  if month = 2 then (if isLeap year then 29 else 28)
  else if month = 4 ∨ month = 6 ∨ month = 9 ∨ month = 11 then 30
  else 31

def next (d : Date) : Date :=
  if d.day < daysIn d.year d.month then ⟨d.year, d.month, d.day + 1⟩
  else if d.month < 12 then ⟨d.year, d.month + 1, 1⟩
  else ⟨d.year + 1, 1, 1⟩

def previous (d : Date) : Date :=
  if 1 < d.day then ⟨d.year, d.month, d.day - 1⟩
  else if 1 < d.month then ⟨d.year, d.month - 1, daysIn d.year (d.month - 1)⟩
  else ⟨d.year - 1, 12, 31⟩

/-- A year of four digits, or with a sign if it is not between 0 and 9999. -/
def writeYear (year : Int) : String :=
  if 0 ≤ year ∧ year ≤ 9999 then padded 4 year.natAbs
  else (if year < 0 then "-" else "+") ++ padded 4 year.natAbs

def write (d : Date) : String :=
  writeYear d.year ++ "-" ++ padded 2 d.month ++ "-" ++ padded 2 d.day

end Date

namespace Time

/-- The time to the second; a leap second is the sixtieth. -/
def write (t : Time) : String :=
  padded 2 t.hour ++ ":" ++ padded 2 t.minute ++ ":" ++ padded 2 (t.second + t.nanos / 1000000000)

def secondOfDay (t : Time) : Int :=
  t.hour * 3600 + t.minute * 60 + t.second

end Time

namespace DateTime

def write (t : DateTime) : String :=
  t.date.write ++ " " ++ t.time.write

/-- Universal time at a local time, `east` seconds ahead of it. Leap seconds stay leap seconds. -/
def toUniversal (local' : DateTime) (east : Int) : DateTime :=
  let second := local'.time.secondOfDay - east
  let date :=
    if second < 0 then local'.date.previous
    else if second < 86400 then local'.date
    else local'.date.next
  let second := (second % 86400).toNat
  ⟨date, ⟨second / 3600, second / 60 % 60, second % 60, local'.time.nanos⟩⟩

end DateTime

end GuardedSql
