/-!
Tokens of a GraphQL document, where they stand, and what can be wrong with a document. Every
problem is a constructor; its wording is in one function.
-/

namespace SchemaToJava.GraphQL

/-- A place in a document: line and column, both counted from 1, columns in characters. -/
structure Position where
  line : Nat
  column : Nat
  deriving DecidableEq, Repr, Inhabited

def Position.first : Position := ⟨1, 1⟩

/-- The place after one character. A carriage return in front of a line feed does not end the
line; the line feed does. -/
def Position.after (p : Position) (c : Char) (rest : List Char) : Position :=
  if c = '\n' || (c = '\r' && rest.head? != some '\n') then ⟨p.line + 1, 1⟩
  else ⟨p.line, p.column + 1⟩

def Position.afterAll (p : Position) : (n : Nat) → (cs : List Char) → Position
  | 0, _ => p
  | _, [] => p
  | n + 1, c :: r => (p.after c r).afterAll n r

inductive Punctuator where
  | bang | dollar | amp | parenL | parenR | spread | colon | equals | at | bracketL | bracketR
  | braceL | pipe | braceR
  deriving DecidableEq, Repr

def Punctuator.text : Punctuator → String
  | .bang => "!"
  | .dollar => "$"
  | .amp => "&"
  | .parenL => "("
  | .parenR => ")"
  | .spread => "..."
  | .colon => ":"
  | .equals => "="
  | .at => "@"
  | .bracketL => "["
  | .bracketR => "]"
  | .braceL => "\x7b"
  | .pipe => "|"
  | .braceR => "\x7d"

def Punctuator.ofChar? (c : Char) : Option Punctuator :=
  if c = '!' then some .bang
  else if c = '$' then some .dollar
  else if c = '&' then some .amp
  else if c = '(' then some .parenL
  else if c = ')' then some .parenR
  else if c = ':' then some .colon
  else if c = '=' then some .equals
  else if c = '@' then some .at
  else if c = '[' then some .bracketL
  else if c = ']' then some .bracketR
  else if c = '\x7b' then some .braceL
  else if c = '|' then some .pipe
  else if c = '\x7d' then some .braceR
  else none

/-- What a token says. Numbers keep their digits; strings hold their decoded value. -/
inductive Lexeme where
  | punct (p : Punctuator)
  | name (text : String)
  | int (text : String)
  | float (text : String)
  | string (value : String)
  | blockString (value : String)
  | eof
  deriving DecidableEq, Repr

structure Token where
  lexeme : Lexeme
  position : Position
  deriving DecidableEq, Repr

def Lexeme.shown : Lexeme → String
  | .punct p => s!"'{p.text}'"
  | .name s => s!"Name '{s}'"
  | .int s => s!"Int '{s}'"
  | .float s => s!"Float '{s}'"
  | .string s => s!"String '{s}'"
  | .blockString s => s!"BlockString '{s}'"
  | .eof => "<EOF>"

def Lexeme.value? : Lexeme → Option String
  | .punct _ => none
  | .name s => some s
  | .int s => some s
  | .float s => some s
  | .string s => some s
  | .blockString s => some s
  | .eof => none

inductive Wanted where
  | punct (p : Punctuator)
  | name
  | keyword (text : String)
  | eof
  deriving DecidableEq, Repr

def Wanted.shown : Wanted → String
  | .punct p => s!"'{p.text}'"
  | .name => "Name"
  | .keyword s => s!"'{s}'"
  | .eof => "<EOF>"

inductive Problem where
  | unexpected (found : Lexeme)
  | expected (wanted : Wanted) (found : Lexeme)
  | variableInConstant (name : String)
  | reservedEnumValue (found : Lexeme)
  | describedShorthand
  | describedNonDefinition
  | nestedTooDeeply
  | character (c : Char)
  | singleQuote
  | twoDots
  | leadingDot (digits : String)
  | digitAfterZero (found : Option Char)
  | digitMissing (found : Option Char)
  | unterminatedString
  | characterEscape (source : String)
  | unicodeEscape (source : String)
  deriving DecidableEq, Repr

private def upperHexDigit (n : Nat) : Char :=
  if n < 10 then Char.ofNat (n + 48) else Char.ofNat (n + 55)

private def upperHex (width : Nat) : (fuel : Nat) → Nat → List Char
  | 0, _ => []
  | fuel + 1, n =>
    if n = 0 && width = 0 then []
    else upperHex (width - 1) fuel (n / 16) ++ [upperHexDigit (n % 16)]

def shownChar (c : Char) : String :=
  if 0x20 ≤ c.toNat && c.toNat ≤ 0x7E then s!"'{c}'"
  else "U+" ++ String.ofList (upperHex 4 8 c.toNat)

def shownChar? : Option Char → String
  | some c => shownChar c
  | none => "<EOF>"

def Problem.message : Problem → String
  | .unexpected t => s!"Unexpected {t.shown}."
  | .expected w t => s!"Expected {w.shown}, found {t.shown}."
  | .variableInConstant n => s!"Unexpected variable '${n}' in constant value."
  | .reservedEnumValue t => s!"{t.shown} is reserved and cannot be used for an enum value."
  | .describedShorthand =>
    "Unexpected description, descriptions are not supported on shorthand queries."
  | .describedNonDefinition =>
    "Unexpected description, only GraphQL definitions support descriptions."
  | .nestedTooDeeply => "Document is nested too deeply. Parsing aborted."
  | .character c => s!"Unexpected character: {shownChar c}."
  | .singleQuote =>
    "Unexpected single quote character ('), did you mean to use a double quote (\")?"
  | .twoDots => "Unexpected '..', did you mean '...'?"
  | .leadingDot ds => s!"Invalid number, expected digit before '.', did you mean '0.{ds}'?"
  | .digitAfterZero c => s!"Invalid number, unexpected digit after 0: {shownChar? c}."
  | .digitMissing c => s!"Invalid number, expected digit but got: {shownChar? c}."
  | .unterminatedString => "Unterminated string."
  | .characterEscape s => s!"Invalid character escape sequence: '{s}'."
  | .unicodeEscape s => s!"Invalid Unicode escape sequence: '{s}'."

structure SyntaxError where
  problem : Problem
  position : Position
  deriving DecidableEq, Repr

def SyntaxError.message (e : SyntaxError) : String := "Syntax Error: " ++ e.problem.message

end SchemaToJava.GraphQL
