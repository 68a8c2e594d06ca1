import SchemaToJava.Decimal.Binary64
import SchemaToJava.Text.LowerCase
import SchemaToJava.Yaml.Base64
import SchemaToJava.Yaml.Error
import SchemaToJava.Yaml.PlainKind

/-!
From the text of a scalar to its value, for each kind of scalar. A written tag may ask for a kind
that the text does not have the form of; then what is wrong is found out part by part.
-/

namespace SchemaToJava.Yaml.Scalar

open Text (CodePoint Wide)

def fail {α : Type} (e : ScalarError) : Except LoadError α := .error (.scalar e)

def boolean (t : Wide) : Except LoadError Value :=
  let word := Text.lower t
  match (Wide.toString? word).bind fun w => PlainKind.booleanWords.lookup w with
  | some b => .ok (.boolean b)
  | none => fail (.word word)

def splitSign : Wide → Bool × Wide
  | .char '-' :: r => (true, r)
  | .char '+' :: r => (false, r)
  | t => (false, t)

def withoutGaps (t : Wide) : Wide := t.filter (· != .char '_')

def sixtyParts (t : Wide) : List Wide := t.splitOn (.char ':')

def integer (base : Nat) (t : Wide) : Except LoadError Int :=
  (Text.readInteger base t).mapError fun e => .scalar (.integer e)

def sixties (parts : List Int) : Int := parts.foldl (fun n part => n * 60 + part) 0

def unsignedInt (t : Wide) : Except LoadError Int :=
  match t with
  | [] => fail .empty
  | [.char '0'] => .ok 0
  | .char '0' :: .char 'b' :: digits => integer 2 digits
  | .char '0' :: .char 'x' :: digits => integer 16 digits
  | .char '0' :: _ => integer 8 t
  | _ =>
    if t.contains (.char ':') then return sixties (← (sixtyParts t).mapM (integer 10))
    else integer 10 t

def int (t : Wide) : Except LoadError Value := do
  let (negative, digits) := splitSign (withoutGaps t)
  let n ← unsignedInt digits
  return .int (if negative then -n else n)

open Decimal

def decimal (t : Wide) : Except LoadError Binary64 :=
  match Binary64.read? (Text.numeral t) with
  | some f => .ok f
  | none => fail (.float t)

/-- A number in base sixty whose parts may have fractions, least part first. `factor` is what the
first part counts; none may be too large for a floating point number. -/
def floatSixties (sum : Binary64) (factor : Int) : List Binary64 → Except LoadError Binary64
  | [] => .ok sum
  | part :: rest =>
    match Binary64.ofInt factor with
    | .infinite _ => fail .floatFactor
    | f => floatSixties (sum.add (part.mul f)) (factor * 60) rest

def infinityWord : Wide := .ofString ".inf"

def nanWord : Wide := .ofString ".nan"

def unsignedFloat (t : Wide) : Except LoadError Binary64 :=
  if t == infinityWord then .ok (.infinite false)
  else if t.contains (.char ':') then do
    floatSixties (.ofInt 0) 1 (← (sixtyParts t).mapM decimal).reverse
  else decimal t

def float (t : Wide) : Except LoadError Value := do
  let t := Text.lower (withoutGaps t)
  if t.isEmpty then fail .empty
  let (negative, body) := splitSign t
  if body == nanWord then return .nan
  let f ← unsignedFloat body
  return .float (if negative then f.neg else f)

def date (d : Date) : Except LoadError Date :=
  if d.year = 0 then fail (.year d.year)
  else if d.month = 0 || 12 < d.month then fail (.outOfRange .month)
  else if d.day = 0 || Date.daysInMonth d.year d.month < d.day then fail .day
  else .ok d

def microseconds (fraction : List Char) : Nat :=
  let digits := fraction.take 6
  ((Text.readDigits? 10 (digits ++ List.replicate (6 - digits.length) '0')).getD 0)

def offset (minutes : Option Int) : Except LoadError (Option Int) :=
  match minutes with
  | some n => if 1440 ≤ n.natAbs then fail (.offset n) else .ok (some n)
  | none => .ok none

def moment (m : PlainKind.Moment) : Except LoadError Value := do
  match m.clock with
  | none => return .date (← date m.date)
  | some c =>
    let offset ← offset c.offset
    let d ← date m.date
    if 24 ≤ c.hour then fail (.outOfRange .hour)
    else if 60 ≤ c.minute then fail (.outOfRange .minute)
    else if 60 ≤ c.second then fail (.outOfRange .second)
    else return .timestamp ⟨d, c.hour, c.minute, c.second, microseconds c.fraction, offset⟩

def timestamp (t : Wide) : Except LoadError Value :=
  match (Wide.toChars? t).bind fun cs => PlainKind.moment? (PlainKind.withoutLastBreak cs) with
  | some m => moment m
  | none => fail .notMoment

def binary (t : Wide) : Except LoadError Value :=
  match (Wide.toChars? t).bind Base64.decode? with
  | some bytes => .ok (.binary bytes)
  | none => .error .malformed

def reader? : Tag → Option (Wide → Except LoadError Value)
  | .null => some fun _ => .ok .null
  | .boolean => some boolean
  | .int => some int
  | .float => some float
  | .timestamp => some timestamp
  | .binary => some binary
  | .text => some fun t => .ok (.text t)
  | _ => none

end SchemaToJava.Yaml.Scalar
