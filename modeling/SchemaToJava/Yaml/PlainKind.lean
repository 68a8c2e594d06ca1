import SchemaToJava.Text.Integer
import SchemaToJava.Yaml.Node
import SchemaToJava.Yaml.Value

/-!
What a scalar without quotes is taken for. The text alone decides: words for truth values and for
nothing, the forms of numbers, and the forms of dates and times; all else is text.
-/

namespace SchemaToJava.Yaml

namespace PlainKind

def booleanWords : List (String × Bool) :=
  [("yes", true), ("no", false), ("true", true), ("false", false), ("on", true), ("off", false)]

def hasUniformCase (cs : List Char) : Bool :=
  match cs with
  | [] => true
  | c :: rest => rest.all Char.isLower || (c.isUpper && rest.all Char.isUpper)

def lower (cs : List Char) : String := String.ofList (cs.map Char.toLower)

def isBoolean (cs : List Char) : Bool :=
  hasUniformCase cs && (booleanWords.lookup (lower cs)).isSome

def isNull (cs : List Char) : Bool :=
  cs.isEmpty || cs == ['~'] || (hasUniformCase cs && lower cs == "null")

def isDigitOrGap (c : Char) : Bool := c.isDigit || c = '_'

def isSixtyPart (cs : List Char) : Bool :=
  match cs with
  | [a] => a.isDigit
  | [a, b] => '0' ≤ a && a ≤ '5' && b.isDigit
  | _ => false

def withoutSign (cs : List Char) : List Char := (Text.splitSign cs).2

def isInt (cs : List Char) : Bool :=
  match withoutSign cs with
  | '0' :: 'b' :: rest => !rest.isEmpty && rest.all fun c => c = '0' || c = '1' || c = '_'
  | '0' :: 'x' :: rest =>
    !rest.isEmpty && rest.all fun c => (Text.digitValue? 16 c).isSome || c = '_'
  | '0' :: rest => rest.all fun c => ('0' ≤ c && c ≤ '7') || c = '_'
  | c :: rest =>
    c.isDigit &&
      match (c :: rest).splitOn ':' with
      | [whole] => whole.all isDigitOrGap
      | whole :: parts => whole.all isDigitOrGap && parts.all isSixtyPart
      | [] => false
  | [] => false

def isExponentOrEmpty (cs : List Char) : Bool :=
  match cs with
  | [] => true
  | e :: sign :: digits =>
    (e = 'e' || e = 'E') && (sign = '+' || sign = '-') && !digits.isEmpty && digits.all Char.isDigit
  | _ => false

def isFraction (cs : List Char) : Bool := isExponentOrEmpty (cs.dropWhile isDigitOrGap)

def isNanWord (cs : List Char) : Bool :=
  cs == ['n', 'a', 'n'] || cs == ['N', 'a', 'N'] || cs == ['N', 'A', 'N']

/-- Numbers with a point, and the words for infinity and for no number. A number that starts with
its point has no sign. -/
def isFloat (cs : List Char) : Bool :=
  let body := withoutSign cs
  match body with
  | '.' :: rest =>
    (hasUniformCase rest && lower rest == "inf") ||
      (cs == body &&
        (isNanWord rest || ((rest.head?.map Char.isDigit).getD false && isFraction rest)))
  | c :: _ =>
    c.isDigit &&
      match body.dropWhile isDigitOrGap with
      | '.' :: fraction => isFraction fraction
      | ':' :: more =>
        match (more.takeWhile (· != '.')).splitOn ':', more.dropWhile (· != '.') with
        | parts, '.' :: fraction => parts.all isSixtyPart && fraction.all isDigitOrGap
        | _, _ => false
      | _ => false
  | [] => false

structure Clock where
  hour : Nat
  minute : Nat
  second : Nat
  fraction : List Char
  offset : Option Int
  deriving Repr

/-- A date, perhaps with a time. `long` tells whether month and day have two digits each. -/
structure Moment where
  date : Date
  long : Bool
  clock : Option Clock
  deriving Repr

def someDigits (least most : Nat) (cs : List Char) : Option (Nat × Nat × List Char) :=
  let ds := (cs.take most).takeWhile Char.isDigit
  if ds.length < least then none
  else (Text.readDigits? 10 ds).map fun n => (n, ds.length, cs.drop ds.length)

def character (c : Char) : List Char → Option (List Char)
  | d :: rest => if c = d then some rest else none
  | [] => none

def isGap (c : Char) : Bool := c = ' ' || c = '\t'

def offset? (cs : List Char) : Option (Option Int) :=
  match cs.dropWhile isGap with
  | [] => if cs.isEmpty then some none else none
  | ['Z'] => some (some 0)
  | sign :: rest =>
    if sign = '+' || sign = '-' then do
      let (hours, _, rest) ← someDigits 1 2 rest
      let minutes ← match rest with
        | [] => some 0
        | ':' :: rest => do
          let (m, _, rest) ← someDigits 2 2 rest
          if rest.isEmpty then some m else none
        | _ => none
      return some (Text.signed (sign = '-') (hours * 60 + minutes))
    else none

def clock? (cs : List Char) : Option Clock := do
  let rest ← match cs with
    | c :: rest =>
      if c = 'T' || c = 't' then some rest
      else if isGap c then some (rest.dropWhile isGap)
      else none
    | [] => none
  let (hour, _, rest) ← someDigits 1 2 rest
  let (minute, _, rest) ← someDigits 2 2 (← character ':' rest)
  let (second, _, rest) ← someDigits 2 2 (← character ':' rest)
  let (fraction, rest) := match rest with
    | '.' :: more => (more.takeWhile Char.isDigit, more.dropWhile Char.isDigit)
    | _ => ([], rest)
  return ⟨hour, minute, second, fraction, ← offset? rest⟩

def moment? (cs : List Char) : Option Moment := do
  let (year, _, rest) ← someDigits 4 4 cs
  let (month, a, rest) ← someDigits 1 2 (← character '-' rest)
  let (day, b, rest) ← someDigits 1 2 (← character '-' rest)
  let long := a = 2 && b = 2
  if rest.isEmpty then return ⟨⟨year, month, day⟩, long, none⟩
  else return ⟨⟨year, month, day⟩, long, some (← clock? rest)⟩

def isTimestamp (cs : List Char) : Bool :=
  match moment? cs with
  | some m => m.long || m.clock.isSome
  | none => false

/-- A text without the line end at its end, unless it is nothing else. The forms overlook it. -/
def withoutLastBreak (cs : List Char) : List Char :=
  if cs.getLast? = some '\n' && 1 < cs.length then cs.dropLast else cs

def tagOf (cs : List Char) : Tag :=
  if isBoolean cs then .boolean
  else if isFloat cs then .float
  else if isInt cs then .int
  else if cs == ['<', '<'] then .merge
  else if isNull cs then .null
  else if isTimestamp cs then .timestamp
  else if cs == ['='] then .default
  else .text

end PlainKind

def Tag.ofPlain (text : Text.Wide) : Tag :=
  match Text.Wide.toChars? text with
  | some cs => PlainKind.tagOf (PlainKind.withoutLastBreak cs)
  | none => .text

end SchemaToJava.Yaml
