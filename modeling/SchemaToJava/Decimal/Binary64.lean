import SchemaToJava.Text.Integer

/-!
Floating point numbers of 64 bits as exact values. A finite number is a mantissa of at most 53 bits
times a power of two; a quotient is rounded to the nearest of them, a tie to the even mantissa.
-/

namespace SchemaToJava.Decimal

/-- A floating point number. The value of a finite one is `mantissa * 2 ^ exponent`. -/
inductive Binary64 where
  | nan
  | infinite (negative : Bool)
  | finite (negative : Bool) (mantissa : Nat) (exponent : Int)
  deriving DecidableEq, Repr

def roundDiv (num den : Nat) : Nat :=
  let q := num / den
  let rest := 2 * (num % den)
  if den < rest || (rest = den && q % 2 = 1) then q + 1 else q

def digitCount (n : Nat) : Nat := (Nat.toDigits 10 n).length

namespace Binary64

def mantissaBits : Nat := 53

def minExponent : Int := -1074

def maxExponent : Int := 971

/-- The exponent at which the mantissa of `num / den` has all its bits, or nearly all. -/
private def exponentFor (num den : Nat) : Int :=
  max minExponent ((num.log2 : Int) - den.log2 - mantissaBits)

private def scaled (num den : Nat) (e : Int) : Nat :=
  if e < 0 then roundDiv (num * Nat.pow 2 (-e).toNat) den
  else roundDiv num (den * Nat.pow 2 e.toNat)

/-- Raises the exponent until the mantissa has no bit too many. Rounding starts from the quotient
each time, so it happens once. -/
private def fit (negative : Bool) (num den : Nat) : (tries : Nat) → Int → Binary64
  | 0, _ => .infinite negative
  | tries + 1, e =>
    let m := scaled num den e
    if maxExponent < e then .infinite negative
    else if m < Nat.pow 2 mantissaBits then .finite negative m e
    else fit negative num den tries (e + 1)

def ofRatio (negative : Bool) (num den : Nat) : Binary64 :=
  if num = 0 then .finite negative 0 minExponent
  else fit negative num den 4 (exponentFor num den)

/-- The number nearest to `digits * 10 ^ exponent`. Exponents far out of range are settled without
writing the power of ten. -/
def ofDecimal (negative : Bool) (digits : Nat) (exponent : Int) : Binary64 :=
  let size := (digitCount digits : Int) + exponent
  if digits = 0 || size < -330 then .finite negative 0 minExponent
  else if 310 < size then .infinite negative
  else if exponent < 0 then ofRatio negative digits (Nat.pow 10 (-exponent).toNat)
  else ofRatio negative (digits * Nat.pow 10 exponent.toNat) 1

def ofInt (n : Int) : Binary64 := ofRatio (n < 0) n.natAbs 1

def neg : Binary64 → Binary64
  | nan => nan
  | infinite s => infinite !s
  | finite s m e => finite (!s) m e

private def ratio (negative : Bool) (m : Nat) (e : Int) : Int × Nat :=
  let n : Int := if e < 0 then m else m * Nat.pow 2 e.toNat
  (if negative then -n else n, if e < 0 then Nat.pow 2 (-e).toNat else 1)

/-- The sum, rounded. A sum of zero is positive unless both parts are negative. -/
def add : Binary64 → Binary64 → Binary64
  | nan, _ => nan
  | _, nan => nan
  | infinite s, infinite t => if s = t then infinite s else nan
  | infinite s, _ => infinite s
  | _, infinite t => infinite t
  | finite s m e, finite t n f =>
    let (a, b) := ratio s m e
    let (c, d) := ratio t n f
    let num := a * d + c * b
    ofRatio (if num = 0 then s && t else num < 0) num.natAbs (b * d)

def mul : Binary64 → Binary64 → Binary64
  | nan, _ => nan
  | _, nan => nan
  | infinite s, infinite t => infinite (s != t)
  | infinite s, finite t n _ => if n = 0 then nan else infinite (s != t)
  | finite s m _, infinite t => if m = 0 then nan else infinite (s != t)
  | finite s m e, finite t n f =>
    let (a, b) := ratio s m e
    let (c, d) := ratio t n f
    ofRatio (s != t) (a * c).natAbs (b * d)

def isInt (n : Int) : Binary64 → Bool
  | finite s m e =>
    let (a, b) := ratio s m e
    a == n * b
  | _ => false

private def splitDigits (cs : List Char) : List Char × List Char :=
  (cs.takeWhile Char.isDigit, cs.dropWhile Char.isDigit)

private def readExponent? : List Char → Option Int
  | [] => some 0
  | c :: rest =>
    if c = 'e' || c = 'E' then
      let (negative, digits) := Text.splitSign rest
      if digits.all Char.isDigit then (Text.readDigits? 10 digits).map (Text.signed negative)
      else none
    else none

private def readUnsigned? (negative : Bool) (cs : List Char) : Option Binary64 :=
  let (whole, rest) := splitDigits cs
  let (fraction, rest) := match rest with
    | '.' :: more => splitDigits more
    | _ => ([], rest)
  do
    let digits ← Text.readDigits? 10 (whole ++ fraction)
    let exponent ← readExponent? rest
    return ofDecimal negative digits (exponent - fraction.length)

def read? (cs : List Char) : Option Binary64 :=
  let (negative, body) := Text.splitSign (Text.trimChars cs)
  match String.ofList (body.map Char.toLower) with
  | "inf" => some (infinite negative)
  | "infinity" => some (infinite negative)
  | "nan" => some nan
  | _ => readUnsigned? negative body

end Binary64

end SchemaToJava.Decimal
