import RestCall.Text.Numeral
/-!
# RestCall — dates of HTTP

Moments are counted in seconds from the beginning of 1970. Days are
numbered likewise; the year of a day is found by counting from the first
of March of the year 0, so that the leap day is the last of its year, in
eras of four hundred years that all have the same number of days.
-/

namespace RestCall

namespace Calendar

/-- A day of the Gregorian calendar, which is continued to all years. -/
structure Date where
  year : Int
  month : Nat
  day : Nat
deriving Repr, DecidableEq

/-- How many seconds a day has. -/
def secondsPerDay : Int := 86400

/-- How many days an era of four hundred years has. -/
def daysPerEra : Int := 146097

/-- The day of a number. -/
def Date.ofNumber (number : Int) : Date :=
  let z := number + 719468
  let era := z.fdiv daysPerEra
  let inEra := (z.fmod daysPerEra).toNat
  let yearOfEra := (inEra - inEra / 1460 + inEra / 36524 - inEra / 146096) / 365
  let inYear := inEra - (365 * yearOfEra + yearOfEra / 4 - yearOfEra / 100)
  let shifted := (5 * inYear + 2) / 153
  let day := inYear - (153 * shifted + 2) / 5 + 1
  let month := if shifted < 10 then shifted + 3 else shifted - 9
  let year := yearOfEra + era * 400
  ⟨if month ≤ 2 then year + 1 else year, month, day⟩

/-- The short name of a day's weekday; the day of number 0 was a Thursday. -/
def weekday (number : Int) : String :=
  match (number.fmod 7).toNat with
  | 0 => "Thu"
  | 1 => "Fri"
  | 2 => "Sat"
  | 3 => "Sun"
  | 4 => "Mon"
  | 5 => "Tue"
  | _ => "Wed"

/-- The short name of a month. -/
def monthName : Nat → String
  | 1 => "Jan"
  | 2 => "Feb"
  | 3 => "Mar"
  | 4 => "Apr"
  | 5 => "May"
  | 6 => "Jun"
  | 7 => "Jul"
  | 8 => "Aug"
  | 9 => "Sep"
  | 10 => "Oct"
  | 11 => "Nov"
  | _ => "Dec"

/-- A year with at least four digits, and with a sign when it has more or
lies before the year 0. -/
def yearText (year : Int) : String :=
  let digits := Numeral.padded 4 year.natAbs
  if year < 0 then "-" ++ digits else if 9999 < year then "+" ++ digits else digits

/-- A moment in the fixed form of HTTP dates. -/
def httpDate (seconds : Int) : String :=
  let number := seconds.fdiv secondsPerDay
  let inDay := (seconds.fmod secondsPerDay).toNat
  let date := Date.ofNumber number
  let two := Numeral.padded 2
  weekday number ++ ", " ++ two date.day ++ " " ++ monthName date.month ++ " " ++
    yearText date.year ++ " " ++ two (inDay / 3600) ++ ":" ++ two (inDay / 60 % 60) ++ ":" ++
    two (inDay % 60) ++ " GMT"

end Calendar

end RestCall
