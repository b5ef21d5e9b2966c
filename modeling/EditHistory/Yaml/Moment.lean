import EditHistory.Number.Reading
import EditHistory.Yaml.Data

/-!
# Dates and times

A date is written as year, month and day; a time of day may follow, with a fraction of a second and the distance from
universal time.  A distance is kept.  What looks like a date or time but names none is an error.

## Main definitions

* `Moment.read?` — the date or time that a text writes
-/

namespace EditHistory.Yaml.Moment

open EditHistory.Text EditHistory.Number

/-- Why a date or time does not exist. -/
inductive Fault where
  | year (n : Nat)
  | month
  | day
  | hour
  | minute
  | second
  /-- The distance from universal time, in seconds, is a day or more. -/
  | offset (seconds : Int)
  deriving DecidableEq, Repr

/-- A length of time in seconds as it is shown: whole days, and the seconds of a day that is left. -/
def shownDelta (seconds : Int) : List Char :=
  let days := if seconds / 86400 = 0 then [] else ["days=".toList ++ intText (seconds / 86400)]
  let rest := if seconds % 86400 = 0 then [] else ["seconds=".toList ++ intText (seconds % 86400)]
  "datetime.timedelta(".toList ++ ", ".toList.intercalate (days ++ rest) ++ [')']

/-- The wording of a fault. -/
def Fault.message : Fault → String
  | .year n => "year " ++ String.ofList (natText n) ++ " is out of range"
  | .month => "month must be in 1..12"
  | .day => "day is out of range for month"
  | .hour => "hour must be in 0..23"
  | .minute => "minute must be in 0..59"
  | .second => "second must be in 0..59"
  | .offset seconds =>
    "offset must be a timedelta strictly between -timedelta(hours=24) and timedelta(hours=24), not " ++
      String.ofList (shownDelta seconds) ++ "."

/-- The distance from universal time. -/
inductive Zone where
  | unsaid
  | universal
  | shifted (negative : Bool) (hours minutes : Nat)
  deriving DecidableEq, Repr

/-- The distance in seconds; to the west it is negative. -/
def Zone.seconds : Zone → Int
  | .unsaid | .universal => 0
  | .shifted negative hours minutes => signed negative (60 * (60 * hours + minutes))

/-- A time of day; the fraction counts millionths of a second. -/
structure Clock where
  hour : Nat
  minute : Nat
  second : Nat
  fraction : Nat
  zone : Zone
  deriving DecidableEq, Repr

/-- Between `least` and `most` digits at the front, as many as there are, and the rest. -/
def digits? (least most : Nat) (cs : List Char) : Option (Nat × List Char) :=
  let ds := (cs.take most).takeWhile Char.isDigit
  if ds.length < least then none
  else some (ofDigits (ds.filterMap asciiDigit?), cs.drop ds.length)

/-- The text after a character that must be there. -/
def after? (c : Char) : List Char → Option (List Char)
  | d :: rest => if c = d then some rest else none
  | [] => none

/-- Whether a character is a space or a tab. -/
def isGap (c : Char) : Bool := c == ' ' || c == '\t'

/-- The distance from universal time that makes up the whole text. -/
def zone? (cs : List Char) : Option Zone :=
  match cs, cs.dropWhile isGap with
  | [], _ => some .unsaid
  | _, ['Z'] => some .universal
  | _, sign :: rest =>
    if sign = '+' ∨ sign = '-' then do
      let (hours, rest) ← digits? 1 2 rest
      match rest with
      | [] => return .shifted (sign == '-') hours 0
      | ':' :: rest =>
        let (minutes, rest) ← digits? 2 2 rest
        if rest = [] then return .shifted (sign == '-') hours minutes else none
      | _ => none
    else none
  | _, [] => none

/-- The millionths of a second that the digits of a fraction write: six of them count. -/
def millionths (ds : List Nat) : Nat :=
  ofDigits ((ds ++ List.replicate 6 0).take 6)

/-- The time of day that makes up the whole text, after the mark between it and the date. -/
def clock? (cs : List Char) : Option Clock := do
  let (hour, rest) ← digits? 1 2 cs
  let rest ← after? ':' rest
  let (minute, rest) ← digits? 2 2 rest
  let rest ← after? ':' rest
  let (second, rest) ← digits? 2 2 rest
  let (fraction, rest) := match rest with
    | '.' :: rest => takeDigits rest
    | _ => ([], rest)
  let zone ← zone? rest
  return ⟨hour, minute, second, millionths fraction, zone⟩

/-- The text of a time of day after the mark between it and the date. -/
def afterMark? (cs : List Char) : Option (List Char) :=
  match cs with
  | c :: rest =>
    if c = 'T' ∨ c = 't' then some rest
    else if isGap c then some (rest.dropWhile isGap)
    else none
  | [] => none

/-- The year, the month and the day, and the time of day if there is one.  A date alone has a month and a day of two
digits, unless `short` allows one. -/
def parts? (short : Bool) (cs : List Char) : Option (Nat × Nat × Nat × Option Clock) := do
  let (year, rest) ← digits? 4 4 cs
  let rest ← after? '-' rest
  let (month, rest1) ← digits? 1 2 rest
  let rest2 ← after? '-' rest1
  let (day, rest3) ← digits? 1 2 rest2
  if rest3 = [] then
    if short || rest.length = 5 then return (year, month, day, none) else none
  else
    let clock ← (afterMark? rest3).bind clock?
    return (year, month, day, some clock)

/-- Whether a year has a leap day. -/
def isLeap (year : Nat) : Bool :=
  year % 4 == 0 && (year % 100 != 0 || year % 400 == 0)

/-- The number of days of a month. -/
def daysIn (year month : Nat) : Nat :=
  if month = 2 then (if isLeap year then 29 else 28)
  else if month = 4 ∨ month = 6 ∨ month = 9 ∨ month = 11 then 30
  else 31

/-- A number with zeros before it up to a width. -/
def padded (width n : Nat) : List Char :=
  let ds := natText n
  List.replicate (width - ds.length) '0' ++ ds

/-- Checks a date. -/
def checkDate (year month day : Nat) : Except Fault Unit :=
  if year = 0 then .error (.year year)
  else if month = 0 ∨ 12 < month then .error .month
  else if day = 0 ∨ daysIn year month < day then .error .day
  else .ok ()

/-- Checks a time of day. -/
def checkClock (c : Clock) : Except Fault Unit :=
  if 23 < c.hour then .error .hour
  else if 59 < c.minute then .error .minute
  else if 59 < c.second then .error .second
  else .ok ()

/-- Checks a distance from universal time. -/
def checkZone (zone : Zone) : Except Fault Unit :=
  if 86400 ≤ zone.seconds.natAbs then .error (.offset zone.seconds) else .ok ()

/-- Numbers separated by commas. -/
def commas (ns : List Nat) : List Char :=
  ", ".toList.intercalate (ns.map natText)

/-- The last parts of a time of day as they are shown: those at the end that are zero are left out. -/
def shownTail (second fraction : Nat) : List Nat :=
  if fraction ≠ 0 then [second, fraction] else if second ≠ 0 then [second] else []

/-- A distance from universal time in a time's text. -/
def zoneText : Zone → List Char
  | .unsaid => []
  | .universal => "+00:00".toList
  | .shifted negative hours minutes =>
    let total := 60 * hours + minutes
    (if negative && total != 0 then '-' else '+') :: padded 2 (total / 60) ++ ':' :: padded 2 (total % 60)

/-- A distance from universal time as it is shown. -/
def zoneShown : Zone → List Char
  | .unsaid => []
  | zone =>
    if zone.seconds = 0 then ", tzinfo=datetime.timezone.utc".toList
    else ", tzinfo=datetime.timezone(".toList ++ shownDelta zone.seconds ++ [')']

/-- A date as data. -/
def dateData (year month day : Nat) : Data :=
  .moment (padded 4 year ++ '-' :: padded 2 month ++ '-' :: padded 2 day)
    ("datetime.date(".toList ++ commas [year, month, day] ++ [')'])

/-- A date and a time of day as data. -/
def timeData (year month day : Nat) (c : Clock) : Data :=
  .moment
    (padded 4 year ++ '-' :: padded 2 month ++ '-' :: padded 2 day ++ ' ' :: padded 2 c.hour ++ ':' ::
      padded 2 c.minute ++ ':' :: padded 2 c.second ++
      (if c.fraction = 0 then [] else '.' :: padded 6 c.fraction) ++ zoneText c.zone)
    ("datetime.datetime(".toList ++ commas ([year, month, day, c.hour, c.minute] ++ shownTail c.second c.fraction) ++
      zoneShown c.zone ++ [')'])

/-- The date or time that a text writes, if it has the form of one. -/
def read? (short : Bool) (cs : List Char) : Option (Except Fault Data) :=
  (parts? short cs).map fun (year, month, day, clock) =>
    match clock with
    | none => (checkDate year month day).map fun _ => dateData year month day
    | some c => do
      checkZone c.zone
      checkDate year month day
      checkClock c
      return timeData year month day c

end EditHistory.Yaml.Moment
