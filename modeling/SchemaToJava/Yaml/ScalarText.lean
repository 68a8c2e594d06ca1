import SchemaToJava.Text.Integer
import SchemaToJava.Yaml.Scan

/-!
The texts of scalars: quoted, plain, and block scalars. Line ends inside them are folded into
spaces or kept, by rules that differ with the form.
-/

namespace SchemaToJava.Yaml.Reading

open Text (CodePoint Wide)

def escapedChar? (c : Char) : Option Char :=
  [('0', '\x00'), ('a', '\x07'), ('b', '\x08'), ('t', '\t'), ('\t', '\t'), ('n', '\n'),
    ('v', '\x0b'), ('f', '\x0c'), ('r', '\x0d'), ('e', '\x1b'), (' ', ' '), ('\x22', '\x22'),
    ('\\', '\\'), ('/', '/'), ('N', '\x85'), ('_', '\u00a0'), ('L', '\u2028'),
    ('P', '\u2029')].lookup c

def codePointWidth? (c : Char) : Option Nat := [('x', 2), ('u', 4), ('U', 8)].lookup c

def isHexDigit (c : Char) : Bool :=
  c.isDigit || ('a' ≤ c && c ≤ 'f') || ('A' ≤ c && c ≤ 'F')

def quotedBreaks : (fuel : Nat) → Reading (List Char)
  | 0 => malformed
  | fuel + 1 => do
    if (← get).atDocumentMark then malformed
    skipWhile Scan.isBlank
    match ← lineEnd with
    | [] => return []
    | b => return b ++ (← quotedBreaks fuel)

def numberLimit : Nat := 0x80000000

def codePoint (n : Nat) : Reading CodePoint :=
  match CodePoint.ofNat? n with
  | some p => return p
  | none => throw (.scalar (if n < numberLimit then .codePoint else .codePointSize))

def escapeSequence : Reading Wide := do
  match ← peek with
  | none => malformed
  | some c =>
    match escapedChar? c, codePointWidth? c with
    | some d, _ =>
      skip 1
      return [.char d]
    | _, some width =>
      skip 1
      let digits := (← get).rest.take width
      unless digits.length = width && digits.all isHexDigit do malformed
      let p ← codePoint ((Text.readDigits? 16 digits).getD 0)
      skip width
      return [p]
    | _, _ =>
      unless Scan.isBreak c do malformed
      let _ ← lineEnd
      return Wide.ofChars (← quotedBreaks ((← get).rest.length + 1))

def quotedWord (double : Bool) : (fuel : Nat) → Reading Wide
  | 0 => malformed
  | fuel + 1 => do
    let cs ← takeWhile fun c =>
      !(c = '\x27' || c = '\x22' || c = '\\' || Scan.isBlank c || Scan.isBreak c)
    let word := Wide.ofChars cs
    match (← get).rest with
    | '\x27' :: '\x27' :: _ =>
      skip (if double then 1 else 2)
      return word ++ .char '\x27' :: (← quotedWord double fuel)
    | c :: _ =>
      if (double && c = '\x27') || (!double && (c = '\x22' || c = '\\')) then
        skip 1
        return word ++ .char c :: (← quotedWord double fuel)
      else if double && c = '\\' then
        skip 1
        let es ← escapeSequence
        return word ++ es ++ (← quotedWord double fuel)
      else return word
    | [] => return word

def folded (lineEnd breaks : List Char) : List Char :=
  (if lineEnd != ['\n'] then lineEnd else if breaks.isEmpty then [' '] else []) ++ breaks

def quotedSpaces : Reading (List Char) := do
  let blanks ← takeWhile Scan.isBlank
  match ← peek with
  | none => malformed
  | some _ =>
    match ← lineEnd with
    | [] => return blanks
    | b => return folded b (← quotedBreaks ((← get).rest.length + 1))

def quotedRest (quote : Char) : (fuel : Nat) → Reading Wide
  | 0 => malformed
  | fuel + 1 => do
    if (← peek) = some quote then
      skip 1
      return []
    let spaces ← quotedSpaces
    let word ← quotedWord (quote = '\x22') ((← get).rest.length + 1)
    return Wide.ofChars spaces ++ word ++ (← quotedRest quote fuel)

def quotedScalar (quote : Char) : Reading Wide := do
  skip 1
  let first ← quotedWord (quote = '\x22') ((← get).rest.length + 1)
  return first ++ (← quotedRest quote ((← get).rest.length + 1))

def isFlowMark (c : Char) : Bool :=
  c = ',' || c = '?' || c = '[' || c = ']' || c = '\x7b' || c = '\x7d'

def endsAfterColon (inFlow : Bool) (next : Option Char) : Bool :=
  Scan.endsAt (fun c => Scan.isBlank c || (inFlow && c != '?' && isFlowMark c)) next

def plainWordSize (inFlow : Bool) : List Char → Nat
  | [] => 0
  | c :: rest =>
    if Scan.isBlank c || Scan.isBreak c || (c = ':' && endsAfterColon inFlow rest.head?) ||
        (inFlow && isFlowMark c) then 0
    else plainWordSize inFlow rest + 1

def plainBreaks : (fuel : Nat) → Reading (Option (List Char))
  | 0 => malformed
  | fuel + 1 => do
    if (← get).atDocumentMark then return none
    skipWhile (· = ' ')
    match ← lineEnd with
    | [] => return some []
    | b => return (← plainBreaks fuel).map (b ++ ·)

def plainSpaces : Reading (Option (List Char)) := do
  let spaces ← takeWhile (· = ' ')
  match ← lineEnd with
  | [] => return if spaces.isEmpty then none else some spaces
  | b =>
    modify fun s => { s with keyAllowed := true }
    return (← plainBreaks ((← get).rest.length + 1)).map (folded b)

/-- The rest of a plain scalar, with `spaces` in front of its next word. -/
def plainWords (indent : Int) (spaces : List Char) : (fuel : Nat) → Reading (List Char)
  | 0 => malformed
  | fuel + 1 => do
    let s ← get
    let size := if s.peek = some '#' then 0 else plainWordSize s.inFlow s.rest
    if size = 0 then return []
    modify fun s => { s with keyAllowed := false }
    let word := s.rest.take size
    skip size
    let next ← plainSpaces
    let s ← get
    match next with
    | none => return spaces ++ word
    | some next =>
      if s.peek = some '#' || (!s.inFlow && (s.column : Int) < indent) then return spaces ++ word
      return spaces ++ word ++ (← plainWords indent next fuel)

def plainScalar : Reading Wide := do
  let s ← get
  return Wide.ofChars (← plainWords (s.indent + 1) [] (s.rest.length + 1))

inductive Chomping where
  | strip
  | clip
  | keep
  deriving DecidableEq, Repr

def chompingMark : Reading (Option Chomping) := do
  match ← peek with
  | some '+' => skip 1; return some .keep
  | some '-' => skip 1; return some .strip
  | _ => return none

def indentMark : Reading (Option Nat) := do
  match ← peek with
  | some c =>
    if c.isDigit then
      if c = '0' then malformed
      skip 1
      return some (c.toNat - 48)
    else return none
  | none => return none

def blockHeader : Reading (Chomping × Option Nat) := do
  match ← chompingMark with
  | some c => return (c, ← indentMark)
  | none =>
    let i ← indentMark
    let c ← if i.isSome then chompingMark else pure none
    return (c.getD .clip, i)

def emptyRestOfLine : Reading Unit := do
  skipWhile (· = ' ')
  skipComment
  requireNext Scan.atLineEnd
  let _ ← lineEnd

def leadingLines (deepest : Nat) : (fuel : Nat) → Reading (List Char × Nat)
  | 0 => malformed
  | fuel + 1 => do
    skipWhile (· = ' ')
    let deepest := max deepest (← get).column
    match ← lineEnd with
    | [] => return ([], deepest)
    | b =>
      let (breaks, deepest) ← leadingLines deepest fuel
      return (b ++ breaks, deepest)

def blockBreaks (indent : Nat) : (fuel : Nat) → Reading (List Char)
  | 0 => malformed
  | fuel + 1 => do
    let s ← get
    skip ((s.rest.take (indent - s.column)).takeWhile (· = ' ')).length
    match ← lineEnd with
    | [] => return []
    | b => return b ++ (← blockBreaks indent fuel)

/-- The lines of a block scalar from the given indentation on; `breaks` are the empty lines in front
of the next. -/
def blockLines (fold : Bool) (chomping : Chomping) (indent : Nat) (before breaks : List Char) :
    (fuel : Nat) → Reading (List Char)
  | 0 => malformed
  | fuel + 1 => do
    let s ← get
    if s.column != indent || s.peek.isNone then
      return (if chomping = .strip then [] else before) ++ (if chomping = .keep then breaks else [])
    let flush := !(s.peek.map Scan.isBlank).getD false
    let line ← takeWhile (!Scan.isBreak ·)
    let ending ← lineEnd
    let next ← blockBreaks indent ((← get).rest.length + 1)
    let s ← get
    let joined :=
      if s.column != indent || s.peek.isNone then []
      else if fold && ending = ['\n'] && flush && !(s.peek.map Scan.isBlank).getD false then
        if next.isEmpty then [' '] else []
      else ending
    return breaks ++ line ++ joined ++ (← blockLines fold chomping indent ending next fuel)

def blockScalar (fold : Bool) : Reading Wide := do
  skip 1
  let (chomping, increment) ← blockHeader
  requireNext Scan.atSpaceOrEnd
  emptyRestOfLine
  let s ← get
  let least := (max (s.indent + 1) 1).toNat
  let fuel := s.rest.length + 1
  let (breaks, indent) ← match increment with
    | none => do
      let (breaks, deepest) ← leadingLines 0 fuel
      pure (breaks, max least deepest)
    | some n => do
      let indent := least + n - 1
      pure (← blockBreaks indent fuel, indent)
  return Wide.ofChars (← blockLines fold chomping indent [] breaks fuel)

end SchemaToJava.Yaml.Reading
