import SchemaToJava.GraphQL.Lexer

/-!
A place in a token stream and the steps every grammar rule is built from. The token at hand is
always one that could be read; moving on reads the next one, so a fault in it is met as soon as the
token before it is accepted.
-/

namespace SchemaToJava.GraphQL

structure Cursor where
  token : Token
  ahead : TokenStream

/-- The first cursor of a stream. At the end of the text the end stays at hand. -/
def Cursor.ofStream : TokenStream → Except SyntaxError Cursor
  | .eof p => .ok ⟨⟨.eof, p⟩, .eof p⟩
  | .fault e => .error e
  | .cons t rest => .ok ⟨t, rest⟩

def Cursor.size (c : Cursor) : Nat := c.ahead.length + 2

/-- A grammar rule: it consumes tokens and answers what they mean, or the first error. -/
abbrev Rule := StateT Cursor (Except SyntaxError)

namespace Rule

def current : Rule Token := return (← get).token

def advance : Rule Unit := fun c => do return ((), ← Cursor.ofStream c.ahead)

def lookahead : Rule Token := fun c => do return ((← Cursor.ofStream c.ahead).token, c)

def fail {α : Type} (problem : Problem) (position : Position) : Rule α :=
  throw ⟨problem, position⟩

def unexpected {α : Type} (t : Token) : Rule α := fail (.unexpected t.lexeme) t.position

def unexpectedHere {α : Type} : Rule α := do unexpected (← current)

def expected {α : Type} (wanted : Wanted) : Rule α := do
  let t ← current
  fail (.expected wanted t.lexeme) t.position

def peek (l : Lexeme) : Rule Bool := return (← current).lexeme == l

def skip? (l : Lexeme) : Rule Bool := do
  if ← peek l then
    advance
    return true
  else return false

def punct (p : Punctuator) : Rule Unit := do
  unless ← skip? (.punct p) do expected (.punct p)

def keyword (word : String) : Rule Unit := do
  unless ← skip? (.name word) do expected (.keyword word)

def endOfText : Rule Unit := do
  unless ← skip? .eof do expected .eof

def name : Rule String := do
  match (← current).lexeme with
  | .name s =>
    advance
    return s
  | _ => expected .name

/-- Reads items until the closing token, which is consumed. An item consumes at least one token, so
`fuel` never runs out when it starts at the number of tokens left. -/
def itemsUntil {α : Type} (close : Lexeme) (item : Rule α) : (fuel : Nat) → Rule (List α)
  | 0 => unexpectedHere
  | fuel + 1 => do
    if ← skip? close then return []
    let x ← item
    return x :: (← itemsUntil close item fuel)

def manyUntil {α : Type} (close : Lexeme) (item : Rule α) : Rule (List α) := do
  itemsUntil close item (← get).size

def someUntil {α : Type} (close : Lexeme) (item : Rule α) : Rule (List α) := do
  let x ← item
  return x :: (← manyUntil close item)

def surrounded {α : Type} (opening closing : Punctuator) (item : Rule α) : Rule (List α) := do
  punct opening
  manyUntil (.punct closing) item

def optionalGroup {α : Type} (opening closing : Punctuator) (item : Rule α) :
    Rule (List α) := do
  if ← skip? (.punct opening) then someUntil (.punct closing) item else return []

def group {α : Type} (opening closing : Punctuator) (item : Rule α) : Rule (List α) := do
  punct opening
  someUntil (.punct closing) item

def separatedRest {α : Type} (separator : Punctuator) (item : Rule α) :
    (fuel : Nat) → Rule (List α)
  | 0 => unexpectedHere
  | fuel + 1 => do
    if ← skip? (.punct separator) then
      let x ← item
      return x :: (← separatedRest separator item fuel)
    else return []

def separated {α : Type} (separator : Punctuator) (item : Rule α) : Rule (List α) := do
  let _ ← skip? (.punct separator)
  let x ← item
  return x :: (← separatedRest separator item (← get).size)

/-- Reads an item as long as the given punctuator, with which an item starts, is at hand. -/
def whileAt {α : Type} (start : Punctuator) (item : Rule α) : (fuel : Nat) → Rule (List α)
  | 0 => unexpectedHere
  | fuel + 1 => do
    if ← peek (.punct start) then
      let x ← item
      return x :: (← whileAt start item fuel)
    else return []

def startingWith {α : Type} (start : Punctuator) (item : Rule α) : Rule (List α) := do
  whileAt start item (← get).size

def run {α : Type} (rule : Rule α) (text : List Char) : Except SyntaxError α := do
  let c ← Cursor.ofStream (.ofChars text)
  return (← (rule <* endOfText) c).1

end Rule

end SchemaToJava.GraphQL
