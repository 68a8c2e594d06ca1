import SchemaToJava.Calendar

/-!
Time stamps of log lines: a moment as its date and time of day, to the millisecond.
-/

namespace SchemaToJava.CommandLine

/-- A moment: seconds since the start of 1970, and milliseconds. -/
structure Moment where
  seconds : Nat
  milliseconds : Nat
  deriving DecidableEq, Repr

def Moment.date (m : Moment) : Date := .ofMarchDays (m.seconds / 86400 + Date.daysTo1970)

def Moment.stamp (m : Moment) : String :=
  let hour := Text.zeroPadded 2 (m.seconds / 3600 % 24)
  let minute := Text.zeroPadded 2 (m.seconds / 60 % 60)
  let second := Text.zeroPadded 2 (m.seconds % 60)
  s!"{m.date.text} {hour}:{minute}:{second},{Text.zeroPadded 3 m.milliseconds}"

example : (Moment.mk 951827696 7).stamp = "2000-02-29 12:34:56,007" := by decide

end SchemaToJava.CommandLine
