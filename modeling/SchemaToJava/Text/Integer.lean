import SchemaToJava.Text.Digit
import SchemaToJava.Text.Wide

/-!
Integers written with digits. Decimal digits are read up to a fixed number of them; bases that are
powers of two have no limit. The decimal digits of any script do, also mixed.
-/

namespace SchemaToJava.Text

inductive IntegerError where
  | tooManyDigits (digits : Nat)
  | malformed (base : Nat) (text : Wide)
  deriving DecidableEq, Repr

def maxDecimalDigits : Nat := 4300

def shownOfText : Nat := 200

def IntegerError.message : IntegerError → String
  | .tooManyDigits n =>
    s!"Exceeds the limit ({maxDecimalDigits} digits) for integer string conversion: " ++
      s!"value has {n} digits; use sys.set_int_max_str_digits() to increase the limit"
  | .malformed base text =>
    let shown := String.ofList ((Wide.quoted text).toList.take shownOfText)
    s!"invalid literal for int() with base {base}: {shown}"

def unwritable : String :=
  s!"Exceeds the limit ({maxDecimalDigits} digits) for integer string conversion; " ++
    "use sys.set_int_max_str_digits() to increase the limit"

def digitValue? (base : Nat) (c : Char) : Option Nat :=
  let n := if '0' ≤ c && c ≤ '9' then c.toNat - 48
    else if 'a' ≤ c && c ≤ 'z' then c.toNat - 87
    else if 'A' ≤ c && c ≤ 'Z' then c.toNat - 55
    else base
  if n < base then some n else none

def readDigits? (base : Nat) (cs : List Char) : Option Nat :=
  if cs.isEmpty then none
  else cs.foldl (fun n c => do return (← n) * base + (← digitValue? base c)) (some 0)

def splitSign : List Char → Bool × List Char
  | '-' :: r => (true, r)
  | '+' :: r => (false, r)
  | cs => (false, cs)

def signed (negative : Bool) (n : Nat) : Int := if negative then -(n : Int) else n

/-- A code point as it counts in a number: all decimal digits are alike, and neither halves nor
information separators mean anything. -/
def numeralChar : CodePoint → Char
  | .half _ => '\uFFFD'
  | .char c =>
    if 28 ≤ c.toNat && c.toNat ≤ 31 then '\uFFFD'
    else (decimalValue? c).elim c fun d => Char.ofNat (d + 48)

def numeral (t : Wide) : List Char := trimChars (t.map numeralChar)

def baseMarks (base : Nat) : List Char :=
  if base = 2 then ['b', 'B'] else if base = 8 then ['o', 'O']
  else if base = 16 then ['x', 'X'] else []

def withoutBaseMark (base : Nat) : List Char → List Char
  | '0' :: c :: rest => if (baseMarks base).contains c then rest else '0' :: c :: rest
  | cs => cs

/-- Reads an integer. Too many digits are refused before anything behind them is looked at. -/
def readInteger (base : Nat) (t : Wide) : Except IntegerError Int :=
  let (negative, body) := splitSign (numeral t)
  let body := withoutBaseMark base body
  let digits := body.takeWhile fun c => (digitValue? base c).isSome
  if base = 10 && maxDecimalDigits < digits.length then .error (.tooManyDigits digits.length)
  else
    match readDigits? base body with
    | some n => .ok (signed negative n)
    | none => .error (.malformed base t)

def zeroPadded (width n : Nat) : String :=
  let digits := Nat.toDigits 10 n
  String.ofList (List.replicate (width - digits.length) '0' ++ digits)

example : readInteger 10 (.ofString "-0") = .ok 0 := rfl
example : readInteger 16 (.ofString "0x1F") = .ok 31 := rfl
example : readInteger 10 (.ofString "٣٠") = .ok 30 := rfl
example : readInteger 2 [] = .error (.malformed 2 []) := rfl

end SchemaToJava.Text
