/-
# PortPool.Time.Instant -- points of universal time

An instant is a day of the Gregorian calendar, continued backwards, and a time
of that day in UTC with nanoseconds.  A leap second is written as the second
after the fifty-ninth and kept as a fraction of a second or more, so the fields
order instants as time does.  Days and times that do not exist are no values of
these types.

`Instant.ofLocal?` moves a time read with an offset to UTC; an offset is less
than a day, so at most one day is crossed.
-/
namespace PortPool.Time

set_option autoImplicit false

/-- A year with a 29th of February. -/
def isLeap (year : Int) : Bool := year % 4 = 0 && (year % 100 ≠ 0 || year % 400 = 0)

/-- How many days a month has; there are none outside the year. -/
def daysIn (year : Int) (month : Nat) : Nat :=
  match month with
  | 1 | 3 | 5 | 7 | 8 | 10 | 12 => 31
  | 4 | 6 | 9 | 11 => 30
  | 2 => if isLeap year then 29 else 28
  | _ => 0

/-- A day of the calendar. -/
structure Date where
  year : Int
  month : Nat
  day : Nat
  day_pos : 1 ≤ day
  day_le : day ≤ daysIn year month
deriving DecidableEq, Repr

namespace Date

/-- The day of these numbers, if there is one. -/
def make? (year : Int) (month day : Nat) : Option Date :=
  if h : 1 ≤ day ∧ day ≤ daysIn year month then some ⟨year, month, day, h.1, h.2⟩ else none

/-- The first day of a month of the year. -/
def firstOf (year : Int) (month : Nat) (within : 1 ≤ daysIn year month) : Date :=
  ⟨year, month, 1, Nat.le_refl 1, within⟩

/-- The day after. -/
def next (d : Date) : Date :=
  if h : d.day + 1 ≤ daysIn d.year d.month then ⟨d.year, d.month, d.day + 1, by omega, h⟩
  else if h : 1 ≤ daysIn d.year (d.month + 1) then firstOf d.year (d.month + 1) h
  else firstOf (d.year + 1) 1 (by simp [daysIn])

/-- The day before. -/
def prev (d : Date) : Date :=
  if h : 2 ≤ d.day then
    ⟨d.year, d.month, d.day - 1, by omega, by have := d.day_le; omega⟩
  else
    let last := daysIn d.year (d.month - 1)
    if h : 1 ≤ last then ⟨d.year, d.month - 1, last, h, Nat.le_refl last⟩
    else ⟨d.year - 1, 12, 31, by decide, by simp [daysIn]⟩

end Date

/-- A time of the day.  The nanoseconds of a leap second go on from those of the
second before it. -/
structure Clock where
  hour : Nat
  minute : Nat
  second : Nat
  nano : Nat
  hour_lt : hour < 24
  minute_lt : minute < 60
  second_lt : second < 60
  nano_lt : nano < 2000000000
  leap : 1000000000 ≤ nano → second = 59
deriving DecidableEq, Repr

/-- The time of these numbers, if there is one; a sixtieth second is a leap
second. -/
def Clock.make? (hour minute second nano : Nat) : Option Clock :=
  let (second, nano) := if second = 60 then (59, nano + 1000000000) else (second, nano)
  if h : hour < 24 ∧ minute < 60 ∧ second < 60 ∧ nano < 2000000000 ∧
      (1000000000 ≤ nano → second = 59) then
    some ⟨hour, minute, second, nano, h.1, h.2.1, h.2.2.1, h.2.2.2.1, h.2.2.2.2⟩
  else none

/-- A point of universal time. -/
structure Instant where
  date : Date
  clock : Clock
deriving DecidableEq, Repr

namespace Instant

/-- The year, in universal time. -/
def year (t : Instant) : Int := t.date.year

/-- The years that can be told. -/
def inReach (year : Int) : Bool := -262143 ≤ year && year ≤ 262142

/-- The instant of a date and time `offset` minutes ahead of UTC, if the offset is
less than a day and the years can be told. -/
def ofLocal? (date : Date) (clock : Clock) (offset : Int) : Option Instant :=
  if -1440 < offset ∧ offset < 1440 ∧ inReach date.year then
    let minutes : Int := (clock.hour * 60 + clock.minute : Nat) - offset
    let (date, minutes) :=
      if minutes < 0 then (date.prev, minutes + 1440)
      else if 1440 ≤ minutes then (date.next, minutes - 1440)
      else (date, minutes)
    let m := minutes.toNat
    if h : m / 60 < 24 then
      if inReach date.year then
        some ⟨date, { clock with
          hour := m / 60, minute := m % 60, hour_lt := h, minute_lt := Nat.mod_lt m (by decide) }⟩
      else none
    else none
  else none

/-- The date after `n` further days. -/
def addDays : Nat → Date → Date
  | 0, d => d
  | n + 1, d => addDays n d.next

/-- The instant so many seconds and nanoseconds after the first of January 1970,
leap seconds not counted. -/
def ofUnix (seconds nanos : Nat) : Instant :=
  let rest := seconds % 86400
  ⟨addDays (seconds / 86400) (Date.firstOf 1970 1 (by decide)),
    { hour := rest / 3600
      minute := rest / 60 % 60
      second := rest % 60
      nano := nanos % 1000000000
      hour_lt := by omega
      minute_lt := by omega
      second_lt := by omega
      nano_lt := by omega
      leap := by omega }⟩

end Instant

end PortPool.Time
