import Provision.Number.Numeral

/-!
# Dates and times

The notation of dates and times in TOML: a date, a time, or both with or without an offset.
-/

namespace Provision

namespace Moment

/-- Two digits with a value in a range, and what follows them. -/
def twoDigits? (low high : Nat) : List Char → Option (Nat × List Char)
  | a :: b :: rest =>
    let n := Numeral.ofDigits [a, b]
    if a.isDigit && b.isDigit && low ≤ n && n ≤ high then some (n, rest) else none
  | _ => none

/-- What follows a character. -/
def after? (c : Char) : List Char → Option (List Char)
  | d :: rest => if d = c then some rest else none
  | [] => none

/-- Whether a year has a leap day. -/
def isLeapYear (year : Nat) : Bool :=
  year % 4 == 0 && (year % 100 != 0 || year % 400 == 0)

/-- The number of days of a month. -/
def daysIn (year month : Nat) : Nat :=
  if month = 2 then (if isLeapYear year then 29 else 28)
  else if month = 4 ∨ month = 6 ∨ month = 9 ∨ month = 11 then 30
  else 31

/-- What follows a date: four digits, two and two, with hyphens. -/
def dateRest? (cs : List Char) : Option (List Char) := do
  let (century, rest) ← twoDigits? 0 99 cs
  let (year, rest) ← twoDigits? 0 99 rest
  let rest ← after? '-' rest
  let (month, rest) ← twoDigits? 1 12 rest
  let rest ← after? '-' rest
  let (_, rest) ← twoDigits? 1 (daysIn (100 * century + year) month) rest
  return rest

/-- What follows a fraction of a second, which may be missing. -/
def fractionRest (cs : List Char) : List Char :=
  match cs with
  | '.' :: c :: rest => if c.isDigit then rest.dropWhile Char.isDigit else cs
  | _ => cs

/-- What follows a time: hours, minutes and seconds with colons, then a fraction. -/
def timeRest? (cs : List Char) : Option (List Char) := do
  let (_, rest) ← twoDigits? 0 23 cs
  let rest ← after? ':' rest
  let (_, rest) ← twoDigits? 0 59 rest
  let rest ← after? ':' rest
  let (_, rest) ← twoDigits? 0 60 rest
  return fractionRest rest

/-- What follows an offset of hours and minutes. -/
def hoursRest? (cs : List Char) : Option (List Char) := do
  let (_, rest) ← twoDigits? 0 23 cs
  let rest ← after? ':' rest
  let (_, rest) ← twoDigits? 0 59 rest
  return rest

/-- What follows an offset, which may be missing. -/
def offsetRest (cs : List Char) : List Char :=
  match cs with
  | 'Z' :: rest => rest
  | 'z' :: rest => rest
  | '+' :: rest => (hoursRest? rest).getD cs
  | '-' :: rest => (hoursRest? rest).getD cs
  | _ => cs

/-- What follows the time behind a date, which may be missing. -/
def dayTimeRest (cs : List Char) : List Char :=
  match cs with
  | c :: rest =>
    if c = 'T' ∨ c = 't' ∨ c = ' ' then ((timeRest? rest).map offsetRest).getD cs else cs
  | [] => []

/-- What follows a date or a time. -/
def rest? (cs : List Char) : Option (List Char) :=
  match dateRest? cs with
  | some rest => some (dayTimeRest rest)
  | none => timeRest? cs

end Moment

end Provision
