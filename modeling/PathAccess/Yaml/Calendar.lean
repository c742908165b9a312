import PathAccess.Decimal.Reading
import PathAccess.Value.Moment
import PathAccess.Yaml.Tag

/-!
# Timestamps as moments

The day and the time that the digits of a timestamp write, if the calendar has such a day and the day such a time.
-/

namespace PathAccess.Yaml

/-- The minutes that a zone is ahead of universal time. -/
def WrittenZone.minutes : WrittenZone → Int
  | universal => 0
  | offset sign hours minutes =>
    let ahead : Int := Decimal.asciiNumber hours * 60 + Decimal.asciiNumber minutes
    if sign = '-' then -ahead else ahead

/-- The microseconds that the digits after a point write; digits beyond the sixth are dropped. -/
def microseconds (fraction : List Char) : Nat :=
  let ds := fraction.take 6
  Decimal.asciiNumber (ds ++ List.replicate (6 - ds.length) '0')

/-- The moment that a timestamp writes, if there is such a moment. -/
def Timestamp.moment? (t : Timestamp) : Option Moment :=
  let m : Moment :=
    { day := ⟨Decimal.asciiNumber t.year, Decimal.asciiNumber t.month, Decimal.asciiNumber t.day⟩
      clock := t.clock.map fun c =>
        { hour := Decimal.asciiNumber c.hour
          minute := Decimal.asciiNumber c.minute
          second := Decimal.asciiNumber c.second
          microsecond := microseconds c.fraction
          zone := t.zone.map WrittenZone.minutes } }
  if m.isValid then some m else none

end PathAccess.Yaml
