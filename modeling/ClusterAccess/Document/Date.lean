import ClusterAccess.Number.Numeral

/-!
# Dates and moments

A calendar date, and a moment with a time of day and perhaps an offset from universal time. Two
moments are the same if both have an offset and they name the same instant, or if neither has one
and all their fields agree.
-/

namespace ClusterAccess

structure Date where
  year : Nat
  month : Nat
  day : Nat
  deriving DecidableEq, Repr

/-- A time of day on a date. The offset counts minutes east of universal time. -/
structure Moment where
  date : Date
  hour : Nat
  minute : Nat
  second : Nat
  micro : Nat
  offset : Option Int
  deriving DecidableEq, Repr

inductive DateError
  | year (value : Nat)
  | month
  | day
  | hour
  | minute
  | second
  | offset (minutes : Int)
  deriving DecidableEq, Repr

namespace Date

def isLeap (y : Nat) : Bool :=
  y % 4 == 0 && (y % 100 != 0 || y % 400 == 0)

def daysIn (y m : Nat) : Nat :=
  match m with
  | 2 => if isLeap y then 29 else 28
  | 4 | 6 | 9 | 11 => 30
  | _ => 31

def check (d : Date) : Except DateError Date :=
  if d.year < 1 ∨ 9999 < d.year then .error (.year d.year)
  else if d.month < 1 ∨ 12 < d.month then .error .month
  else if d.day < 1 ∨ daysIn d.year d.month < d.day then .error .day
  else .ok d

/-- Days since the start of year zero. -/
def dayNumber (d : Date) : Nat :=
  let y := d.year - 1
  let before := y * 365 + y / 4 - y / 100 + y / 400
  ((List.range (d.month - 1)).map fun i => daysIn d.year (i + 1)).foldl (· + ·) (before + d.day)

def pad (width n : Nat) : String :=
  String.ofList (Number.padZeros width (Number.natDigits 10 n))

def display (d : Date) : String :=
  pad 4 d.year ++ "-" ++ pad 2 d.month ++ "-" ++ pad 2 d.day

def fields (d : Date) : List Nat := [d.year, d.month, d.day]

def describe (d : Date) : String :=
  "datetime.date(" ++ ", ".intercalate (d.fields.map Number.natText) ++ ")"

end Date

/-- A span of time as a constructor call: whole days, which may be negative, and seconds. -/
def spanText (minutes : Int) : String :=
  let seconds := minutes * 60
  let days := Int.fdiv seconds 86400
  let rest := Int.fmod seconds 86400
  let parts :=
    (if days = 0 then [] else ["days=" ++ Number.intText days]) ++
      (if rest = 0 then [] else ["seconds=" ++ Number.intText rest])
  "datetime.timedelta(" ++ (if parts.isEmpty then "0" else ", ".intercalate parts) ++ ")"

namespace DateError

def message : DateError → String
  | .year y => "year " ++ Number.natText y ++ " is out of range"
  | .month => "month must be in 1..12"
  | .day => "day is out of range for month"
  | .hour => "hour must be in 0..23"
  | .minute => "minute must be in 0..59"
  | .second => "second must be in 0..59"
  | .offset m =>
    "offset must be a timedelta strictly between -timedelta(hours=24) and timedelta(hours=24), not "
      ++ spanText m ++ "."

end DateError

namespace Moment

/-- Offsets are checked before dates and dates before times. -/
def check (m : Moment) : Except DateError Moment :=
  match m.offset with
  | some o => if 1440 ≤ o.natAbs then .error (.offset o) else checkFields m
  | none => checkFields m
where
  checkFields (m : Moment) : Except DateError Moment := do
    let _ ← m.date.check
    if 23 < m.hour then .error .hour
    else if 59 < m.minute then .error .minute
    else if 59 < m.second then .error .second
    else .ok m

/-- Seconds since the start of year zero, in universal time when there is an offset. -/
def instant (m : Moment) : Int :=
  ((m.date.dayNumber * 86400 + m.hour * 3600 + m.minute * 60 + m.second : Nat) : Int) -
    60 * m.offset.getD 0

def same (a b : Moment) : Bool :=
  a.offset.isSome == b.offset.isSome && a.instant == b.instant && a.micro == b.micro

def offsetText (o : Int) : String :=
  (if o < 0 then "-" else "+") ++ Date.pad 2 (o.natAbs / 60) ++ ":" ++ Date.pad 2 (o.natAbs % 60)

/-- Date and time of day separated by a blank, microseconds only if there are any, offset last. -/
def display (m : Moment) : String :=
  m.date.display ++ " " ++ Date.pad 2 m.hour ++ ":" ++ Date.pad 2 m.minute ++ ":" ++
    Date.pad 2 m.second ++ (if m.micro = 0 then "" else "." ++ Date.pad 6 m.micro) ++
    (match m.offset with
      | none => ""
      | some o => offsetText o)

/-- The moment as a constructor call; zero seconds and microseconds at the end are left out. -/
def describe (m : Moment) : String :=
  let tail :=
    if m.micro ≠ 0 then [m.second, m.micro] else if m.second ≠ 0 then [m.second] else []
  let nums := (m.date.fields ++ [m.hour, m.minute] ++ tail).map Number.natText
  let zone :=
    match m.offset with
    | none => []
    | some 0 => ["tzinfo=datetime.timezone.utc"]
    | some o => ["tzinfo=datetime.timezone(" ++ spanText o ++ ")"]
  "datetime.datetime(" ++ ", ".intercalate (nums ++ zone) ++ ")"

end Moment
end ClusterAccess
