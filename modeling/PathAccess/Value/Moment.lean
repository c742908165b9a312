/-!
# Dates and points in time

Days of the Gregorian calendar in the years 1 to 9999, alone or with a time of day, which may be told in a zone.  Two
points in time with a zone are the same when they are the same instant, whatever their zones (`Moment.same`).
-/

namespace PathAccess

/-- A day of the calendar. -/
structure Day where
  year : Nat
  month : Nat
  day : Nat
  deriving DecidableEq

namespace Day

def isLeap (year : Nat) : Bool := year % 4 = 0 && (year % 100 ≠ 0 || year % 400 = 0)

def monthLength (year month : Nat) : Nat :=
  if month = 2 then (if isLeap year then 29 else 28)
  else if month = 4 || month = 6 || month = 9 || month = 11 then 30 else 31

/-- Whether there is such a day. -/
def isValid (d : Day) : Bool :=
  1 ≤ d.year && d.year ≤ 9999 && 1 ≤ d.month && d.month ≤ 12 && 1 ≤ d.day && d.day ≤ monthLength d.year d.month

/-- The days before a year. -/
def daysBefore (year : Nat) : Nat := (year - 1) * 365 + (year - 1) / 4 - (year - 1) / 100 + (year - 1) / 400

/-- The number of the day, counted from the first day of the year 1. -/
def number (d : Day) : Nat :=
  daysBefore d.year + ((List.range (d.month - 1)).map fun m => monthLength d.year (m + 1)).foldl (· + ·) 0 + d.day

end Day

/-- A time of day. -/
structure Clock where
  hour : Nat
  minute : Nat
  second : Nat
  microsecond : Nat
  /-- How many minutes the zone is ahead of universal time. -/
  zone : Option Int
  deriving DecidableEq

/-- Whether there is such a time of day; a zone is less than a day away from universal time. -/
def Clock.isValid (c : Clock) : Bool :=
  c.hour ≤ 23 && c.minute ≤ 59 && c.second ≤ 59 && c.microsecond ≤ 999999 &&
    c.zone.all fun z => -1440 < z && z < 1440

/-- A day, alone or with a time of day. -/
structure Moment where
  day : Day
  clock : Option Clock
  deriving DecidableEq

namespace Moment

/-- Whether there is such a day and such a time of day. -/
def isValid (m : Moment) : Bool := m.day.isValid && m.clock.all Clock.isValid

/-- The microseconds up to a time of a day, told in universal time. -/
def instant (d : Day) (c : Clock) : Int :=
  (((d.number * 24 + c.hour) * 60 + c.minute - c.zone.getD 0) * 60 + c.second) * 1000000 + c.microsecond

/-- Whether two moments are the same day, the same time without a zone, or the same instant. -/
def same (m n : Moment) : Bool :=
  match m.clock, n.clock with
  | none, none => m.day = n.day
  | some a, some b => a.zone.isSome = b.zone.isSome && instant m.day a = instant n.day b
  | _, _ => false

/-- The quoted form of a zone. -/
def quotedZone (minutes : Int) : String :=
  if minutes = 0 then "datetime.timezone.utc"
  else
    let days := if minutes < 0 then "days=-1, " else ""
    let seconds := (if minutes < 0 then minutes + 1440 else minutes) * 60
    "datetime.timezone(datetime.timedelta(" ++ days ++ "seconds=" ++ toString seconds ++ "))"

/-- The moment as a message quotes it; seconds and microseconds are left out while they and what follows are zero. -/
def quoted (m : Moment) : String :=
  let date := toString m.day.year ++ ", " ++ toString m.day.month ++ ", " ++ toString m.day.day
  match m.clock with
  | none => "datetime.date(" ++ date ++ ")"
  | some c =>
    let micro := if c.microsecond = 0 then "" else ", " ++ toString c.microsecond
    let rest := if c.second = 0 && c.microsecond = 0 then "" else ", " ++ toString c.second ++ micro
    let zone := match c.zone with
      | none => ""
      | some z => ", tzinfo=" ++ quotedZone z
    "datetime.datetime(" ++ date ++ ", " ++ toString c.hour ++ ", " ++ toString c.minute ++ rest ++ zone ++ ")"

end Moment

end PathAccess
