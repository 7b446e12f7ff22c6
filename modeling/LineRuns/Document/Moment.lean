import LineRuns.Text.Basic

/-!
# Dates and moments

A date is a day of the calendar that has a leap day every four years but for three years in four
hundred. A moment is a time of day on a date, down to microseconds, and may say how far its clock
is ahead of universal time, in minutes. Years have four digits and begin with one.
-/

namespace LineRuns.Document

/-! ## Dates -/

/-- A day. -/
structure Date where
  year : Nat
  month : Nat
  day : Nat
  deriving DecidableEq, Repr

/-- Why there is no such date or moment: the first part that is out of its range. -/
inductive MomentError
  | year (n : Nat)
  | month
  | day
  | hour
  | minute
  | second
  | offset (minutes : Int)
  deriving DecidableEq, Repr

/-- Whether a year has a leap day. -/
def isLeap (year : Nat) : Bool :=
  year % 4 == 0 && (year % 100 != 0 || year % 400 == 0)

/-- The number of days of a month. -/
def daysIn (year month : Nat) : Nat :=
  if month = 2 then (if isLeap year then 29 else 28)
  else if [4, 6, 9, 11].contains month then 30
  else 31

/-- The date of a year, a month and a day, if there is one. -/
def Date.of (year month day : Nat) : Except MomentError Date :=
  if year = 0 then .error (.year year)
  else if month < 1 ∨ 12 < month then .error .month
  else if day < 1 ∨ daysIn year month < day then .error .day
  else .ok ⟨year, month, day⟩

/-- The number of days before a date since the first of January of the first year. -/
def Date.daysBefore (date : Date) : Nat :=
  let years := date.year - 1
  let months :=
    (List.range (date.month - 1)).foldr (fun m days => daysIn date.year (m + 1) + days) 0
  365 * years + years / 4 - years / 100 + years / 400 + months + (date.day - 1)

/-- A number in decimal digits, filled up with zeros in front. -/
def padded (places n : Nat) : Text :=
  let digits := Text.ofNat n
  List.replicate (places - digits.length) 0x30 ++ digits

/-- A date with its parts from the longest to the shortest. -/
def Date.text (date : Date) : Text :=
  padded 4 date.year ++ "-" ++ padded 2 date.month ++ "-" ++ padded 2 date.day

/-- A date in words. -/
def Date.description (date : Date) : Text :=
  "datetime.date(" ++ Text.join ", " ([date.year, date.month, date.day].map Text.ofNat) ++ ")"

/-! ## Moments -/

/-- A time of day on a date; `offset` is how many minutes its clock is ahead. -/
structure Moment where
  date : Date
  hour : Nat
  minute : Nat
  second : Nat
  microsecond : Nat
  offset : Option Int
  deriving DecidableEq, Repr

/-- The moment of its parts, if there is one. The offset is looked at first; it must be less than
a day either way. -/
def Moment.of (year month day hour minute second microsecond : Nat) (offset : Option Int) :
    Except MomentError Moment :=
  match offset.filter fun minutes => minutes ≤ -1440 || 1440 ≤ minutes with
  | some minutes => .error (.offset minutes)
  | none => do
    let date ← Date.of year month day
    if 23 < hour then .error .hour
    else if 59 < minute then .error .minute
    else if 59 < second then .error .second
    else .ok ⟨date, hour, minute, second, microsecond, offset⟩

/-- The microseconds of a moment since the first of January of the first year, by universal time
if its clock's offset is known. -/
def Moment.instant (m : Moment) : Int :=
  let minutes : Int := (m.date.daysBefore * 24 + m.hour) * 60 + m.minute
  ((minutes - m.offset.getD 0) * 60 + m.second) * 1000000 + m.microsecond

/-- Whether two moments are the same one. A clock without an offset shows no moment that a clock
with one shows. -/
def Moment.isSame (m n : Moment) : Bool :=
  m.offset.isSome == n.offset.isSome && m.instant == n.instant

/-- A moment with its parts from the longest to the shortest; microseconds only if there are
some. -/
def Moment.text (m : Moment) : Text :=
  let part : Text := if m.microsecond = 0 then [] else "." ++ padded 6 m.microsecond
  let clock := padded 2 m.hour ++ ":" ++ padded 2 m.minute ++ ":" ++ padded 2 m.second ++ part
  let zone : Text := match m.offset with
    | none => []
    | some minutes =>
      (if minutes < 0 then "-" else "+") ++ padded 2 (minutes.natAbs / 60) ++ ":" ++
        padded 2 (minutes.natAbs % 60)
  m.date.text ++ " " ++ clock ++ zone

/-- A span of minutes in words: whole days, which may be fewer than none, and seconds. -/
def spanDescription (minutes : Int) : Text :=
  let days := minutes / 1440
  let seconds := minutes % 1440 * 60
  let parts : List Text :=
    (if days = 0 then [] else ["days=" ++ Text.ofInt days]) ++
      (if seconds = 0 then [] else ["seconds=" ++ Text.ofInt seconds])
  let all : Text := if parts.isEmpty then "0" else Text.join ", " parts
  "datetime.timedelta(" ++ all ++ ")"

/-- A moment in words; seconds and microseconds are left out from the end while they are none. -/
def Moment.description (m : Moment) : Text :=
  let seconds :=
    if m.microsecond = 0 then (if m.second = 0 then [] else [m.second])
    else [m.second, m.microsecond]
  let parts := [m.date.year, m.date.month, m.date.day, m.hour, m.minute] ++ seconds
  let zone : List Text := match m.offset with
    | none => []
    | some 0 => ["tzinfo=datetime.timezone.utc"]
    | some minutes => ["tzinfo=datetime.timezone(" ++ spanDescription minutes ++ ")"]
  "datetime.datetime(" ++ Text.join ", " (parts.map Text.ofNat ++ zone) ++ ")"

/-- The wording of a moment error. -/
def MomentError.message : MomentError → Text
  | .year n => "year " ++ Text.ofNat n ++ " is out of range"
  | .month => "month must be in 1..12"
  | .day => "day is out of range for month"
  | .hour => "hour must be in 0..23"
  | .minute => "minute must be in 0..59"
  | .second => "second must be in 0..59"
  | .offset minutes =>
    "offset must be a timedelta strictly between -timedelta(hours=24) and timedelta(hours=24), not " ++
      spanDescription minutes ++ "."

end LineRuns.Document
