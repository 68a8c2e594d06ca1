import SchemaToJava.Text.Integer

/-!
Days of the calendar, which runs with the same rules in all years, and how they are numbered.
-/

namespace SchemaToJava

structure Date where
  year : Nat
  month : Nat
  day : Nat
  deriving DecidableEq, Repr

namespace Date

def isLeapYear (y : Nat) : Bool := y % 4 = 0 && (y % 100 != 0 || y % 400 = 0)

def daysInMonth (year month : Nat) : Nat :=
  if month = 2 then if isLeapYear year then 29 else 28
  else if month = 4 || month = 6 || month = 9 || month = 11 then 30
  else 31

def text (d : Date) : String :=
  s!"{Text.zeroPadded 4 d.year}-{Text.zeroPadded 2 d.month}-{Text.zeroPadded 2 d.day}"

/-- The days of 400 years, after which the calendar repeats. -/
def daysOfCycle : Nat := 146097

def daysTo1970 : Nat := 719468

/-- The date a number of days after 1 March of the year 0. Years start in March here, so that a leap
day is the last of its year. -/
def ofMarchDays (n : Nat) : Date :=
  let d := n % daysOfCycle
  let year := (d - d / 1460 + d / 36524 - d / 146096) / 365
  let dayOfYear := d - (365 * year + year / 4 - year / 100)
  let m := (5 * dayOfYear + 2) / 153
  let day := dayOfYear - (153 * m + 2) / 5 + 1
  let year := n / daysOfCycle * 400 + year
  if m < 10 then ⟨year, m + 3, day⟩ else ⟨year + 1, m - 9, day⟩

def marchDays (d : Date) : Nat :=
  let year := if 2 < d.month then d.year else d.year - 1
  let month := (d.month + 9) % 12
  year * 365 + year / 4 - year / 100 + year / 400 + (153 * month + 2) / 5 + d.day - 1

example : ofMarchDays daysTo1970 = ⟨1970, 1, 1⟩ := by decide
example : (ofMarchDays 730484).marchDays = 730484 := by decide
example : ofMarchDays 730484 = ⟨2000, 2, 29⟩ := by decide
example : (ofMarchDays 59).text = "0000-04-29" := by decide

end Date

end SchemaToJava
