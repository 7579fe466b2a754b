import Wikidown.Yaml.Error
import Wikidown.Yaml.Scalar

/-!
# Times

A written time is checked against the calendar and the clock: first its offset, then the date from
the year down to the day, then the clock time.
-/

namespace Wikidown.Yaml.Scalar.Time

/-- Whether a year has a leap day. -/
def isLeap (year : Nat) : Bool :=
  year % 4 == 0 && (year % 100 != 0 || year % 400 == 0)

/-- How many days a month has. -/
def daysIn (year month : Nat) : Nat :=
  if month = 2 then if isLeap year then 29 else 28
  else if month ∈ [4, 6, 9, 11] then 30
  else 31

/-- Refuses a date that is not in the calendar. -/
def checkDate (t : Time) : Except Misfit Unit :=
  if t.year = 0 then .error (.year t.year)
  else if t.month < 1 ∨ 12 < t.month then .error .month
  else if t.day < 1 ∨ daysIn t.year t.month < t.day then .error .day
  else .ok ()

/-- Refuses a clock time that no clock shows. -/
def checkClock : Nat × Nat × Nat → Except Misfit Unit
  | (hour, minute, second) =>
    if 23 < hour then .error .hour
    else if 59 < minute then .error .minute
    else if 59 < second then .error .second
    else .ok ()

/-- The seconds of a day. -/
def daySeconds : Nat :=
  86400

/-- Refuses an offset of a day or more. -/
def checkZone : Bool × Nat × Nat → Except Misfit Unit
  | (negative, hours, minutes) =>
    let seconds := hours * 3600 + minutes * 60
    if seconds < daySeconds then .ok ()
    else
      let offset : Int := if negative then -(seconds : Int) else seconds
      .error (.zone (offset.fdiv daySeconds) (offset.fmod daySeconds).toNat)

/-- Refuses a time that is none. -/
def check (t : Time) : Except Misfit Unit := do
  t.zone.forM checkZone
  t.checkDate
  t.clock.forM checkClock

end Wikidown.Yaml.Scalar.Time
