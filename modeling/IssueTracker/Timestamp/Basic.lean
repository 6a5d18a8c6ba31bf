/-! Instants of universal time, to the nanosecond, in the proleptic Gregorian
calendar. Seconds go to 60, the sixtieth being a leap second. Years reach from
-262143 to 262142. -/

namespace IssueTracker

def isLeap (year : Int) : Bool :=
  year % 4 == 0 && (year % 100 != 0 || year % 400 == 0)

def daysIn (year : Int) (month : Nat) : Nat :=
  match month with
  | 2 => if isLeap year then 29 else 28
  | 4 | 6 | 9 | 11 => 30
  | _ => 31

def firstYear : Int := -262143

def lastYear : Int := 262142

structure Date where
  year : Int
  month : Nat
  day : Nat
  year_mem : firstYear ≤ year ∧ year ≤ lastYear
  month_mem : 1 ≤ month ∧ month ≤ 12
  day_mem : 1 ≤ day ∧ day ≤ daysIn year month
  deriving DecidableEq

structure Clock where
  hour : Nat
  minute : Nat
  second : Nat
  nano : Nat
  hour_lt : hour < 24
  minute_lt : minute < 60
  second_le : second ≤ 60
  nano_lt : nano < 1000000000
  deriving DecidableEq

structure Timestamp where
  date : Date
  clock : Clock
  deriving DecidableEq

namespace Date

def make? (year : Int) (month day : Nat) : Option Date :=
  if hy : firstYear ≤ year ∧ year ≤ lastYear then
    if hm : 1 ≤ month ∧ month ≤ 12 then
      if hd : 1 ≤ day ∧ day ≤ daysIn year month then some ⟨year, month, day, hy, hm, hd⟩
      else none
    else none
  else none

def next? (d : Date) : Option Date :=
  if d.day < daysIn d.year d.month then make? d.year d.month (d.day + 1)
  else if d.month < 12 then make? d.year (d.month + 1) 1
  else make? (d.year + 1) 1 1

def previous? (d : Date) : Option Date :=
  if 1 < d.day then make? d.year d.month (d.day - 1)
  else if 1 < d.month then make? d.year (d.month - 1) (daysIn d.year (d.month - 1))
  else make? (d.year - 1) 12 31

end Date

namespace Clock

def make? (hour minute second nano : Nat) : Option Clock :=
  if h : hour < 24 ∧ minute < 60 ∧ second ≤ 60 ∧ nano < 1000000000 then
    some ⟨hour, minute, second, nano, h.1, h.2.1, h.2.2.1, h.2.2.2⟩
  else none

/-- The same seconds at another minute of the day. -/
def atMinute (c : Clock) (m : Nat) : Clock :=
  ⟨m / 60 % 24, m % 60, c.second, c.nano, by omega, by omega, c.second_le, c.nano_lt⟩

end Clock

namespace Timestamp

/-- The instant of a local date and time that is `offset` minutes ahead of
universal time, for an offset of less than a day. -/
def ofLocal? (date : Date) (clock : Clock) (offset : Int) : Option Timestamp :=
  let m := (clock.hour * 60 + clock.minute : Nat) - offset
  if m < 0 then
    date.previous?.map fun d => ⟨d, clock.atMinute (m + 1440).toNat⟩
  else if m < 1440 then
    some ⟨date, clock.atMinute m.toNat⟩
  else
    date.next?.map fun d => ⟨d, clock.atMinute (m - 1440).toNat⟩

end Timestamp
end IssueTracker
