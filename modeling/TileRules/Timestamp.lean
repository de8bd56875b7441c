/-!
# Timestamp — instants in universal time

An instant is a date of the Gregorian calendar and a time of day with nanoseconds, in universal
time. A second may be number 60, for a leap second.

- `Date.ofParts?` and `Timestamp.ofParts?` build only what exists;
- `Date.next?` and `Date.previous?` step by one day;
- `Timestamp.later` is the instant one nanosecond later.
-/

namespace TileRules

/-! ## Dates -/

/-- Every fourth year is a leap year, but of the hundreds only every fourth. -/
def isLeapYear (year : Int) : Bool :=
  year % 4 == 0 && (year % 100 != 0 || year % 400 == 0)

def daysInMonth (year : Int) (month : Nat) : Nat :=
  match month with
  | 4 | 6 | 9 | 11 => 30
  | 2 => if isLeapYear year then 29 else 28
  | _ => 31

/-- Whether the numbers name a day that the calendar covers. -/
def IsDate (year : Int) (month day : Nat) : Prop :=
  (-262143 ≤ year ∧ year ≤ 262142) ∧ (1 ≤ month ∧ month ≤ 12) ∧
    (1 ≤ day ∧ day ≤ daysInMonth year month)

instance (year : Int) (month day : Nat) : Decidable (IsDate year month day) :=
  inferInstanceAs (Decidable (_ ∧ _))

/-- A day of the calendar. -/
structure Date where
  year : Int
  month : Nat
  day : Nat
  isDate : IsDate year month day
  deriving DecidableEq, Repr

namespace Date

def ofParts? (year : Int) (month day : Nat) : Option Date :=
  if h : IsDate year month day then some ⟨year, month, day, h⟩ else none

/-- The day after. -/
def next? (d : Date) : Option Date :=
  if d.day < daysInMonth d.year d.month then ofParts? d.year d.month (d.day + 1)
  else if d.month < 12 then ofParts? d.year (d.month + 1) 1
  else ofParts? (d.year + 1) 1 1

/-- The day before. -/
def previous? (d : Date) : Option Date :=
  if 1 < d.day then ofParts? d.year d.month (d.day - 1)
  else if 1 < d.month then
    ofParts? d.year (d.month - 1) (daysInMonth d.year (d.month - 1))
  else ofParts? (d.year - 1) 12 31

end Date

/-! ## Instants -/

/-- Whether the numbers name a time of day; the second may be a leap second. -/
def IsTime (hour minute second nano : Nat) : Prop :=
  hour < 24 ∧ minute < 60 ∧ second ≤ 60 ∧ nano < 1000000000

instance (hour minute second nano : Nat) : Decidable (IsTime hour minute second nano) :=
  inferInstanceAs (Decidable (_ ∧ _))

/-- An instant in universal time. -/
structure Timestamp where
  date : Date
  hour : Nat
  minute : Nat
  second : Nat
  nano : Nat
  isTime : IsTime hour minute second nano
  deriving DecidableEq, Repr

namespace Timestamp

def ofParts? (date : Date) (hour minute second nano : Nat) : Option Timestamp :=
  if h : IsTime hour minute second nano then some ⟨date, hour, minute, second, nano, h⟩ else none

/-- The instant whose local time, `offset` minutes ahead of universal time, is given. -/
def ofLocal? (date : Date) (hour minute second nano : Nat) (offset : Int) : Option Timestamp := do
  let _ ← ofParts? date hour minute second nano
  let minutes := (hour * 60 + minute : Int) - offset
  let date ←
    if minutes < 0 then date.previous?
    else if 1440 ≤ minutes then date.next?
    else some date
  let ofDay := (minutes % 1440).toNat
  ofParts? date (ofDay / 60) (ofDay % 60) second nano

/-- One nanosecond later, through the carries of second, minute, hour and day; the last instant of
the calendar stays where it is. -/
def later (t : Timestamp) : Timestamp :=
  let found :=
    if t.nano + 1 < 1000000000 then ofParts? t.date t.hour t.minute t.second (t.nano + 1)
    else if t.second + 1 < 60 then ofParts? t.date t.hour t.minute (t.second + 1) 0
    else if t.minute + 1 < 60 then ofParts? t.date t.hour (t.minute + 1) 0 0
    else if t.hour + 1 < 24 then ofParts? t.date (t.hour + 1) 0 0 0
    else t.date.next?.bind fun date => ofParts? date 0 0 0 0
  found.getD t

/-- The first instant of the year 2000. -/
def epoch : Timestamp :=
  ⟨⟨2000, 1, 1, by decide⟩, 0, 0, 0, 0, by decide⟩

/-- The day a number of days later, as far as the calendar goes. -/
def daysLater : (days : Nat) → Date → Date
  | 0, d => d
  | days + 1, d => daysLater days (d.next?.getD d)

/-- The instant a number of seconds and nanoseconds after `epoch`. -/
def afterEpoch (seconds nano : Nat) : Timestamp :=
  let ofDay := seconds % 86400
  let found := ofParts? (daysLater (seconds / 86400) epoch.date) (ofDay / 3600) (ofDay / 60 % 60)
    (ofDay % 60) nano
  found.getD epoch

end Timestamp
end TileRules
