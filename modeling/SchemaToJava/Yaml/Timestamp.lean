import SchemaToJava.Calendar

/-!
Moments: a date with a time of day, and perhaps the offset of that time from universal time. A
moment has one text by itself and another inside a collection.
-/

namespace SchemaToJava.Yaml

structure Timestamp where
  date : Date
  hour : Nat
  minute : Nat
  second : Nat
  microsecond : Nat
  offset : Option Int
  deriving DecidableEq, Repr

namespace Timestamp

def clock (t : Timestamp) : String :=
  let time := s!"{Text.zeroPadded 2 t.hour}:{Text.zeroPadded 2 t.minute}:"
  time ++ Text.zeroPadded 2 t.second ++
    (if t.microsecond = 0 then "" else "." ++ Text.zeroPadded 6 t.microsecond)

def offsetText (minutes : Int) : String :=
  let n := minutes.natAbs
  (if minutes < 0 then "-" else "+") ++
    s!"{Text.zeroPadded 2 (n / 60)}:{Text.zeroPadded 2 (n % 60)}"

def text (t : Timestamp) : String :=
  t.date.text ++ " " ++ t.clock ++ (t.offset.map offsetText).getD ""

/-- The minutes of a moment in universal time, counted from 1 March of the year 0. -/
def universalMinutes (t : Timestamp) : Int :=
  (t.date.marchDays * 1440 + t.hour * 60 + t.minute : Nat) - t.offset.getD 0

/-- Whether two moments are one. Their offsets may differ, but not only one may have one. -/
def isSameAs (t u : Timestamp) : Bool :=
  t.offset.isSome == u.offset.isSome && t.universalMinutes == u.universalMinutes &&
    t.second == u.second && t.microsecond == u.microsecond

end Timestamp

def durationText (minutes : Int) : String :=
  let days := minutes / 1440
  let seconds := minutes % 1440 * 60
  let parts :=
    (if days = 0 then [] else [s!"days={days}"]) ++
      (if seconds = 0 then [] else [s!"seconds={seconds}"])
  "datetime.timedelta(" ++ (if parts.isEmpty then "0" else ", ".intercalate parts) ++ ")"

def zoneText (minutes : Int) : String :=
  if minutes = 0 then "datetime.timezone.utc" else s!"datetime.timezone({durationText minutes})"

/-- The text of a moment inside a collection. Parts at the end that are zero are left out. -/
def Timestamp.inner (t : Timestamp) : String :=
  let parts := [t.date.year, t.date.month, t.date.day, t.hour, t.minute] ++
    (if t.second = 0 && t.microsecond = 0 then [] else [t.second]) ++
    (if t.microsecond = 0 then [] else [t.microsecond])
  let zone := (t.offset.map fun n => ["tzinfo=" ++ zoneText n]).getD []
  "datetime.datetime(" ++ ", ".intercalate (parts.map toString ++ zone) ++ ")"

example : durationText (-300) = "datetime.timedelta(days=-1, seconds=68400)" := by decide

end SchemaToJava.Yaml
