import SchemaToJava.Yaml.Source
import SchemaToJava.Yaml.Token

/-!
The state of reading YAML: the text still to be read, what is known about the collections around
its start, and the tokens that have been read and not yet taken.
-/

namespace SchemaToJava.Yaml

/-- A token that may turn out to be the key of a mapping once a colon follows it. -/
structure PossibleKey where
  tokenNumber : Nat
  required : Bool
  index : Nat
  line : Nat
  column : Nat
  deriving DecidableEq, Repr

/-- The text still to be read, what is wrong behind it, and where it starts; the collections around
it; the tokens read and not yet taken, how many have been taken, and whether the last one is among
those read. `keys` holds the possible key of each flow level, innermost first; its length is one
more than the number of open flow collections. `indents` are the columns of the open block
collections, innermost first. -/
structure Scan where
  rest : List Char
  flaw : Option LoadError
  index : Nat
  line : Nat
  column : Nat
  indents : List Nat
  keyAllowed : Bool
  keys : List (Option PossibleKey)
  tokens : List Token
  taken : Nat
  ended : Bool
  deriving Repr

namespace Scan

def start (s : Source) : Scan := ⟨s.chars, s.flaw, 0, 0, 0, [], true, [none], [], 0, false⟩

def inFlow (s : Scan) : Bool := 1 < s.keys.length

def peek (s : Scan) : Option Char := s.rest.head?

def peekAt (s : Scan) (n : Nat) : Option Char := s.rest[n]?

def isBreak (c : Char) : Bool :=
  c = '\n' || c = '\r' || c = '\x85' || c = '\u2028' || c = '\u2029'

def isBlank (c : Char) : Bool := c = ' ' || c = '\t'

def endsAt (also : Char → Bool) (c : Option Char) : Bool :=
  match c with
  | none => true
  | some c => isBreak c || also c

def atLineEnd (c : Option Char) : Bool := endsAt (fun _ => false) c

def atSpaceOrEnd (c : Option Char) : Bool := endsAt (· = ' ') c

def atBlankOrEnd (c : Option Char) : Bool := endsAt isBlank c

def forward (s : Scan) : Scan :=
  match s.rest with
  | [] => s
  | c :: rest =>
    let s := { s with rest, index := s.index + 1 }
    if isBreak c && !(c = '\r' && rest.head? = some '\n') then
      { s with line := s.line + 1, column := 0 }
    else { s with column := if c = '\uFEFF' then s.column else s.column + 1 }

def skip (s : Scan) : (n : Nat) → Scan
  | 0 => s
  | n + 1 => s.forward.skip n

def mark (s : Scan) : Mark := ⟨s.line, s.column⟩

def indent (s : Scan) : Int := (s.indents.head?.map Int.ofNat).getD (-1)

def emit (s : Scan) (t : Token) : Scan := { s with tokens := s.tokens ++ [t] }

def nextNumber (s : Scan) : Nat := s.taken + s.tokens.length

def take (s : Scan) : Scan := { s with tokens := s.tokens.drop 1, taken := s.taken + 1 }

def firstPossibleKey (s : Scan) : Option Nat := (s.keys.filterMap (·.map (·.tokenNumber))).min?

def atDocumentMark (s : Scan) : Bool :=
  (s.rest.take 3 == ['-', '-', '-'] || s.rest.take 3 == ['.', '.', '.']) &&
    atBlankOrEnd (s.peekAt 3)

end Scan

abbrev Reading := StateT Scan (Except LoadError)

namespace Reading

def malformed {α : Type} : Reading α := throw .malformed

def peek : Reading (Option Char) := return (← get).peek

/-- Moves past several characters. What is wrong behind the text is met one character early. -/
def skip (n : Nat) : Reading Unit := do
  modify (·.skip n)
  let s ← get
  if let some e := s.flaw then
    if s.rest.length ≤ 1 then throw e

def takeWhile (p : Char → Bool) : Reading (List Char) := do
  let cs := (← get).rest.takeWhile p
  skip cs.length
  return cs

def skipWhile (p : Char → Bool) : Reading Unit := do
  let _ ← takeWhile p

def lineEnd : Reading (List Char) := do
  match (← get).rest with
  | '\r' :: '\n' :: _ => skip 2; return ['\n']
  | c :: _ =>
    if c = '\u2028' || c = '\u2029' then skip 1; return [c]
    else if Scan.isBreak c then skip 1; return ['\n']
    else return []
  | [] => return []

def requireNext (p : Option Char → Bool) : Reading Unit := do
  unless p (← peek) do malformed

def skipComment : Reading Unit := do
  if (← peek) = some '#' then skipWhile (!Scan.isBreak ·)

end Reading

end SchemaToJava.Yaml
