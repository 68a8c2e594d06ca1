import SchemaToJava.Text.Utf8
import SchemaToJava.Yaml.Mark
import SchemaToJava.Yaml.Timestamp

/-!
Why a configuration file has no value: it is no YAML, it cannot be decoded, a node in it is said to
be a mapping and is none, or a scalar has a kind that its text does not fit.
-/

namespace SchemaToJava.Yaml

inductive ClockPart where
  | month
  | hour
  | minute
  | second
  deriving DecidableEq, Repr

inductive ScalarError where
  | integer (e : Text.IntegerError)
  | float (text : Text.Wide)
  | floatFactor
  | word (text : Text.Wide)
  | empty
  | codePoint
  | codePointSize
  | notMoment
  | momentOfMapping
  | year (n : Nat)
  | day
  | outOfRange (part : ClockPart)
  | offset (minutes : Int)
  deriving DecidableEq, Repr

inductive LoadError where
  | malformed
  | mappingExpected (found : NodeKind) (mark : Mark)
  | scalar (e : ScalarError)
  | encoding (e : Text.Utf8.DecodeError)
  deriving DecidableEq, Repr

def ClockPart.text : ClockPart → String
  | .month => "month must be in 1..12"
  | .hour => "hour must be in 0..23"
  | .minute => "minute must be in 0..59"
  | .second => "second must be in 0..59"

def ScalarError.message : ScalarError → String
  | .integer e => e.message
  | .float t => s!"could not convert string to float: {Text.Wide.quoted t}"
  | .floatFactor => "int too large to convert to float"
  | .word t => Text.Wide.quoted t
  | .empty => "string index out of range"
  | .codePoint => "chr() arg not in range(0x110000)"
  | .codePointSize => "Python int too large to convert to C int"
  | .notMoment => "'NoneType' object has no attribute 'groupdict'"
  | .momentOfMapping => "expected string or bytes-like object, got 'list'"
  | .year n => s!"year {n} is out of range"
  | .day => "day is out of range for month"
  | .outOfRange p => p.text
  | .offset n =>
    "offset must be a timedelta strictly between -timedelta(hours=24) and timedelta(hours=24), " ++
      s!"not {durationText n}."

end SchemaToJava.Yaml
