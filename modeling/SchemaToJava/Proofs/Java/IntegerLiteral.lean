import Mathlib.Algebra.Group.Nat.Defs
import Mathlib.Algebra.Ring.Int.Defs
import SchemaToJava.Proofs.Java.LiteralReader

/-!
Integer literals and their sizes. The digits of an integer are one that Java accepts exactly if the
integer has 32 bits, for nothing but a suffix makes a literal longer.
-/

namespace SchemaToJava.Java

def splitMinus : List Char → Bool × List Char
  | '-' :: cs => (true, cs)
  | cs => (false, cs)

def splitSuffix (cs : List Char) : Nat × List Char :=
  if cs.getLast? = some 'L' ∨ cs.getLast? = some 'l' then (64, cs.dropLast) else (32, cs)

/-- The number that Java takes a text for, if it is a decimal integer literal, perhaps behind a minus
sign. The literal has to fit its size; one more than that may only stand behind the sign. -/
def integerLiteral? (text : String) : Option Int :=
  let (negative, body) := splitMinus text.toList
  let (size, digits) := splitSuffix body
  match Reader.natural digits with
  | some (n, []) =>
    if n < 2 ^ (size - 1) then some (if negative then -n else n)
    else if negative ∧ n = 2 ^ (size - 1) then some (-n)
    else none
  | _ => none

theorem natural_toDigits (n : Nat) : Reader.natural (Nat.toDigits 10 n) = some (n, []) := by
  have hreads := reads_natural n [] fun _ h => nomatch h
  rwa [List.append_nil, String.toList_ofList] at hreads

theorem splitMinus_toDigits (n : Nat) :
    splitMinus (Nat.toDigits 10 n) = (false, Nat.toDigits 10 n) := by
  unfold splitMinus
  split
  · rename_i hdigits
    have hmem : '-' ∈ Nat.toDigits 10 n := hdigits ▸ List.mem_cons_self
    exact absurd hmem (not_mem_toDigits n (by decide))
  · rfl

theorem splitSuffix_toDigits (n : Nat) :
    splitSuffix (Nat.toDigits 10 n) = (32, Nat.toDigits 10 n) := by
  refine if_neg ?_
  rintro (hlast | hlast)
  · exact not_mem_toDigits n (by decide) (List.mem_of_getLast? hlast)
  · exact not_mem_toDigits n (by decide) (List.mem_of_getLast? hlast)

/-- Java accepts the digits of an integer exactly if it has 32 bits, and then takes them for it. -/
theorem integerLiteral?_toString (n : Int) :
    integerLiteral? (toString n) = if -2 ^ 31 ≤ n ∧ n < 2 ^ 31 then some n else none := by
  rw [integerLiteral?, toList_toString_int]
  by_cases hneg : n < 0
  · have habs : -(n.natAbs : Int) = n := by omega
    simp only [if_pos hneg, List.singleton_append, splitMinus, splitSuffix_toDigits,
      natural_toDigits, if_true, true_and, habs]
    grind
  · have habs : (n.natAbs : Int) = n := by omega
    simp only [if_neg hneg, List.nil_append, splitMinus_toDigits, splitSuffix_toDigits,
      natural_toDigits, Bool.false_eq_true, if_false, false_and, habs]
    grind

example : integerLiteral? "-2147483648" = some (-2147483648) := by decide
example : integerLiteral? "2147483648" = none := by decide
example : integerLiteral? "2147483648L" = some 2147483648 := by decide

end SchemaToJava.Java
