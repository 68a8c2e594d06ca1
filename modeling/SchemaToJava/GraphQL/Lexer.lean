import SchemaToJava.GraphQL.BlockString
import SchemaToJava.GraphQL.Token

/-!
From characters to tokens. Each reader looks at the text from the start of a token on and says how
many characters the token has; the text is then walked character by character, so that the places
of tokens follow from one rule. Blanks, commas, line ends, the byte order mark and comments
separate tokens and leave nothing behind.
-/

namespace SchemaToJava.GraphQL

def isDigit (c : Char) : Bool := '0' ≤ c && c ≤ '9'

def isNameStart (c : Char) : Bool :=
  ('A' ≤ c && c ≤ 'Z') || ('a' ≤ c && c ≤ 'z') || c = '_'

def isNameContinue (c : Char) : Bool := isNameStart c || isDigit c

def hexValue? (c : Char) : Option Nat :=
  if '0' ≤ c && c ≤ '9' then some (c.toNat - 48)
  else if 'A' ≤ c && c ≤ 'F' then some (c.toNat - 55)
  else if 'a' ≤ c && c ≤ 'f' then some (c.toNat - 87)
  else none

def hexNumber? (cs : List Char) : Option Nat :=
  cs.foldl (fun n c => do return (← n) * 16 + (← hexValue? c)) (some 0)

def isScalarValue (n : Nat) : Bool := n ≤ 0xD7FF || (0xE000 ≤ n && n ≤ 0x10FFFF)

namespace Lexer

/-- A reader's failure: how far into the token it is noticed, and what it is. -/
structure Flaw where
  offset : Nat
  problem : Problem

/-- Counts the digits at the start of `cs`, of which there has to be one; `offset` is where `cs`
starts in the token. -/
def digits (offset : Nat) (cs : List Char) : Except Flaw Nat :=
  match (cs.takeWhile isDigit).length with
  | 0 => .error ⟨offset, .digitMissing cs.head?⟩
  | n => .ok n

def wholePart (offset : Nat) (cs : List Char) : Except Flaw Nat :=
  match cs with
  | '0' :: rest =>
    match rest with
    | c :: _ => if isDigit c then .error ⟨offset + 1, .digitAfterZero (some c)⟩ else .ok 1
    | [] => .ok 1
  | _ => digits offset cs

def fractionPart (offset : Nat) (cs : List Char) : Except Flaw Nat :=
  match cs with
  | '.' :: rest => do return 1 + (← digits (offset + 1) rest)
  | _ => .ok 0

def exponentPart (offset : Nat) (cs : List Char) : Except Flaw Nat :=
  match cs with
  | c :: rest =>
    if c = 'e' || c = 'E' then
      match rest with
      | s :: more =>
        if s = '+' || s = '-' then do return 2 + (← digits (offset + 2) more)
        else do return 1 + (← digits (offset + 1) rest)
      | [] => do return 1 + (← digits (offset + 1) [])
    else .ok 0
  | [] => .ok 0

def number (cs : List Char) : Except Flaw (Lexeme × Nat) := do
  let sign := if cs.head? = some '-' then 1 else 0
  let whole := sign + (← wholePart sign (cs.drop sign))
  let withFraction := whole + (← fractionPart whole (cs.drop whole))
  let size := withFraction + (← exponentPart withFraction (cs.drop withFraction))
  match (cs.drop size).head? with
  | some c =>
    if c = '.' || isNameStart c then throw ⟨size, .digitMissing (some c)⟩
  | none => pure ()
  let text := String.ofList (cs.take size)
  return (if size = whole then .int text else .float text, size)

def shortEscape? (c : Char) : Option Char :=
  if c = '\x22' || c = '\\' || c = '/' then some c
  else if c = 'b' then some '\x08'
  else if c = 'f' then some '\x0c'
  else if c = 'n' then some '\n'
  else if c = 'r' then some '\x0d'
  else if c = 't' then some '\t'
  else none

/-- The braced form of a Unicode escape, given the text after its opening brace and what is left of
the twelve characters such an escape may have: its value, or the number of characters up to the
first that does not fit. -/
def bracedEscape (value size : Nat) : (room : Nat) → List Char → Except Nat (Nat × Nat)
  | 0, _ => .error size
  | _, [] => .error size
  | room + 1, c :: rest =>
    if c = '\x7d' then
      if 4 ≤ size && isScalarValue value then .ok (value, size + 1) else .error (size + 1)
    else
      match hexValue? c with
      | some d => bracedEscape (value * 16 + d) (size + 1) room rest
      | none => .error (size + 1)

def pairedSurrogates? (high low : Nat) : Option Nat :=
  if 0xD800 ≤ high && high ≤ 0xDBFF && 0xDC00 ≤ low && low ≤ 0xDFFF then
    some ((high - 0xD800) * 0x400 + (low - 0xDC00) + 0x10000)
  else none

def escape (cs : List Char) : Except Problem (Char × Nat) :=
  match cs with
  | '\\' :: 'u' :: '\x7b' :: rest =>
    match bracedEscape 0 3 9 rest with
    | .ok (n, size) => .ok (Char.ofNat n, size)
    | .error size => .error (.unicodeEscape (String.ofList (cs.take size)))
  | '\\' :: 'u' :: rest =>
    let refuse := Except.error (.unicodeEscape (String.ofList (cs.take 6)))
    match rest with
    | a :: b :: c :: d :: rest =>
      match hexNumber? [a, b, c, d] with
      | none => refuse
      | some n =>
        if isScalarValue n then .ok (Char.ofNat n, 6)
        else
          match rest with
          | '\\' :: 'u' :: e :: f :: g :: h :: _ =>
            match (hexNumber? [e, f, g, h]).bind (pairedSurrogates? n) with
            | some p => .ok (Char.ofNat p, 12)
            | none => refuse
          | _ => refuse
    | _ => refuse
  | _ =>
    match cs[1]?.bind shortEscape? with
    | some c => .ok (c, 2)
    | none => .error (.characterEscape (String.ofList (cs.take 2)))

/-- Reads the rest of a string from offset `offset` on: its value and the length of the token. The
next `skip` characters belong to an escape sequence already read. -/
def stringBody (offset skip : Nat) : List Char → Except Flaw (List Char × Nat)
  | [] => .error ⟨offset, .unterminatedString⟩
  | c :: rest =>
    match skip with
    | k + 1 => stringBody (offset + 1) k rest
    | 0 =>
      if c = '\x22' then .ok ([], offset + 1)
      else if c = '\n' || c = '\r' then .error ⟨offset, .unterminatedString⟩
      else if c = '\\' then
        match escape (c :: rest) with
        | .error p => .error ⟨offset, p⟩
        | .ok (d, size) => do
          let (value, size) ← stringBody (offset + 1) (size - 1) rest
          return (d :: value, size)
      else do
        let (value, size) ← stringBody (offset + 1) 0 rest
        return (c :: value, size)

def onFirstLine (c : Char) : List (List Char) → List (List Char)
  | [] => [[c]]
  | line :: lines => (c :: line) :: lines

/-- Reads the rest of a block string: its raw lines and the length of the token. The next `skip`
characters have been dealt with. -/
def blockBody (offset skip : Nat) : List Char → Except Flaw (List (List Char) × Nat)
  | [] => .error ⟨offset, .unterminatedString⟩
  | c :: rest =>
    match skip with
    | k + 1 => blockBody (offset + 1) k rest
    | 0 =>
      match c :: rest with
      | '\x22' :: '\x22' :: '\x22' :: _ => .ok ([[]], offset + 3)
      | '\\' :: '\x22' :: '\x22' :: '\x22' :: _ => do
        let (lines, size) ← blockBody (offset + 1) 3 rest
        return (onFirstLine '\x22' (onFirstLine '\x22' (onFirstLine '\x22' lines)), size)
      | '\r' :: '\n' :: _ => do
        let (lines, size) ← blockBody (offset + 1) 1 rest
        return ([] :: lines, size)
      | _ => do
        let (lines, size) ← blockBody (offset + 1) 0 rest
        return (if c = '\n' || c = '\r' then [] :: lines else onFirstLine c lines, size)

inductive Piece where
  | skip (size : Nat)
  | token (lexeme : Lexeme) (size : Nat)

def isIgnored (c : Char) : Bool :=
  c = ' ' || c = '\t' || c = ',' || c = '\n' || c = '\r' || c = '\uFEFF'

def commentSize (cs : List Char) : Nat := (cs.takeWhile fun c => c ≠ '\n' && c ≠ '\r').length

def point (rest : List Char) : Except Flaw Piece :=
  match rest with
  | '.' :: '.' :: _ => .ok (.token (.punct .spread) 3)
  | '.' :: _ => .error ⟨0, .twoDots⟩
  | _ =>
    match rest.takeWhile isDigit with
    | [] => .error ⟨0, .character '.'⟩
    | ds => .error ⟨0, .leadingDot (String.ofList ds)⟩

def stringPiece (rest : List Char) : Except Flaw Piece :=
  match rest with
  | '\x22' :: '\x22' :: rest => do
    let (lines, size) ← blockBody 3 0 rest
    return .token (.blockString (String.ofList (BlockString.value lines))) size
  | _ => do
    let (value, size) ← stringBody 1 0 rest
    return .token (.string (String.ofList value)) size

def piece (c : Char) (rest : List Char) : Except Flaw Piece :=
  if isIgnored c then .ok (.skip 1)
  else if c = '#' then .ok (.skip (1 + commentSize rest))
  else if c = '\x22' then stringPiece rest
  else
    match Punctuator.ofChar? c with
    | some p => .ok (.token (.punct p) 1)
    | none =>
      if isDigit c || c = '-' then do
        let (lexeme, size) ← number (c :: rest)
        return .token lexeme size
      else if isNameStart c then
        let tail := rest.takeWhile isNameContinue
        .ok (.token (.name (String.ofList (c :: tail))) (1 + tail.length))
      else if c = '.' then point rest
      else if c = '\x27' then .error ⟨0, .singleQuote⟩
      else .error ⟨0, .character c⟩

end Lexer

/-- The tokens of a text, as far as they can be read: the list ends with the end of the text or
with the first thing that is no token. A grammar rule that never gets that far never sees it. -/
inductive TokenStream where
  | eof (position : Position)
  | fault (error : SyntaxError)
  | cons (token : Token) (rest : TokenStream)

namespace TokenStream

def scan (p : Position) (skip : Nat) : List Char → TokenStream
  | [] => .eof p
  | c :: rest =>
    let next := p.after c rest
    match skip with
    | k + 1 => scan next k rest
    | 0 =>
      match Lexer.piece c rest with
      | .error f => .fault ⟨f.problem, p.afterAll f.offset (c :: rest)⟩
      | .ok (.skip size) => scan next (size - 1) rest
      | .ok (.token lexeme size) => .cons ⟨lexeme, p⟩ (scan next (size - 1) rest)

def ofChars (cs : List Char) : TokenStream := scan .first 0 cs

def length : TokenStream → Nat
  | .eof _ => 0
  | .fault _ => 0
  | .cons _ rest => rest.length + 1

end TokenStream

end SchemaToJava.GraphQL
