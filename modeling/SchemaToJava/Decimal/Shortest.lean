import SchemaToJava.Decimal.Binary64

/-!
The shortest decimal text that reads back as a given floating point number. Of all decimals with the
fewest digits that round to the number, the one nearest to it is written.
-/

namespace SchemaToJava.Decimal

structure Scientific where
  digits : Nat
  exponent : Int
  deriving DecidableEq, Repr

namespace Shortest

/-- A positive number with the ends of the interval that rounds to it, over one denominator, and
whether the ends belong to it. -/
structure Interval where
  low : Nat
  value : Nat
  high : Nat
  den : Nat
  closed : Bool
  deriving DecidableEq, Repr

/-- The interval of a number. Below a power of two the numbers lie twice as close. -/
def interval (m : Nat) (e : Int) : Interval :=
  let down := if m = Nat.pow 2 52 && Binary64.minExponent < e then 1 else 2
  let unit := if 2 ≤ e then Nat.pow 2 (e - 2).toNat else 1
  ⟨(4 * m - down) * unit, 4 * m * unit, (4 * m + 2) * unit,
    if 2 ≤ e then 1 else Nat.pow 2 (2 - e).toNat, m % 2 = 0⟩

def magnitude (i : Interval) : Int := (digitCount (i.value * Nat.pow 10 400 / i.den) : Int) - 400

def Interval.contains (i : Interval) (n : Nat) : Bool :=
  if i.closed then i.low ≤ n && n ≤ i.high else i.low < n && n < i.high

def onGrid (i : Interval) (p : Int) : Option Scientific :=
  let up := if p < 0 then Nat.pow 10 (-p).toNat else 1
  let step := i.den * (if p < 0 then 1 else Nat.pow 10 p.toNat)
  let j : Interval := ⟨i.low * up, i.value * up, i.high * up, 1, i.closed⟩
  let c := j.value / step
  let nearest := roundDiv j.value step
  let other := if nearest = c then c + 1 else c
  if j.contains (nearest * step) then some ⟨nearest, p⟩
  else if j.contains (other * step) then some ⟨other, p⟩
  else none

/-- Tries grids with one digit more each time; seventeen digits always suffice. -/
def search (i : Interval) (p : Int) : (digits : Nat) → Scientific
  | 0 => ⟨roundDiv i.value i.den, 0⟩
  | d + 1 => (onGrid i p).getD (search i (p - 1) d)

def trimZeros : (fuel : Nat) → Scientific → Scientific
  | 0, s => s
  | fuel + 1, s =>
    if s.digits != 0 && s.digits % 10 = 0 then trimZeros fuel ⟨s.digits / 10, s.exponent + 1⟩ else s

def decimal (m : Nat) (e : Int) : Scientific :=
  let i := interval m e
  trimZeros 400 (search i (magnitude i - 1) 17)

end Shortest

/-- How decimals are laid out: with a point where the decimal exponent is in the given range, in
exponent notation elsewhere. -/
structure Layout where
  leastExponent : Int
  exponentBound : Int
  exponentWidth : Nat

private def zeros (n : Nat) : List Char := List.replicate n '0'

private def positional (digits : List Char) (exponent : Int) : List Char :=
  let whole := (digits.length : Int) + exponent
  if 0 ≤ exponent then digits ++ zeros exponent.toNat ++ ['.', '0']
  else if whole ≤ 0 then '0' :: '.' :: (zeros (-whole).toNat ++ digits)
  else digits.take whole.toNat ++ '.' :: digits.drop whole.toNat

private def exponential (width : Nat) (digits : List Char) (exponent : Int) : List Char :=
  let power := (digits.length : Int) - 1 + exponent
  let shown := Nat.toDigits 10 power.natAbs
  digits.take 1 ++ (if digits.length = 1 then [] else '.' :: digits.drop 1) ++
    'e' :: (if power < 0 then '-' else '+') :: (zeros (width - shown.length) ++ shown)

def Layout.render (l : Layout) (s : Scientific) : List Char :=
  let digits := Nat.toDigits 10 s.digits
  let power := (digits.length : Int) - 1 + s.exponent
  if l.leastExponent ≤ power && power < l.exponentBound then positional digits s.exponent
  else exponential l.exponentWidth digits s.exponent

/-- Exponents from -4 to 15 are written out; other exponents have a sign and two digits or more. -/
def Layout.standard : Layout := ⟨-4, 16, 2⟩

def Binary64.text : Binary64 → String
  | .nan => "nan"
  | .infinite s => if s then "-inf" else "inf"
  | .finite s m e =>
    let body := if m = 0 then ['0', '.', '0'] else Layout.standard.render (Shortest.decimal m e)
    String.ofList (if s then '-' :: body else body)

end SchemaToJava.Decimal
