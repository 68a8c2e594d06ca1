import SchemaToJava.Text.Utf8
import SchemaToJava.Yaml.ScalarText

/-!
From text to tokens. A key of a mapping is recognised by the colon after it, so its token is put in
front of tokens that were read before; how far back this may reach is limited to one line and a
number of characters. No token is read before the one in front of it is settled and taken.
-/

namespace SchemaToJava.Yaml.Reading

def longestKey : Nat := 1024

def possibleKey : Reading (Option PossibleKey) := return (← get).keys.head?.join

def setPossibleKey (k : Option PossibleKey) : Reading Unit :=
  modify fun s => { s with keys := k :: s.keys.drop 1 }

def dropKey : Reading Unit := do
  if let some k ← possibleKey then
    if k.required then malformed
  setPossibleKey none

def noteKey : Reading Unit := do
  let s ← get
  if s.keyAllowed then
    dropKey
    let required := !s.inFlow && s.indent == s.column
    setPossibleKey (some ⟨s.nextNumber, required, s.index, s.line, s.column⟩)

def isStale (s : Scan) (k : PossibleKey) : Bool :=
  k.line != s.line || longestKey < s.index - k.index

def unlessStale (s : Scan) (k : Option PossibleKey) : Option PossibleKey :=
  k.bind fun k => if isStale s k then none else some k

def dropStaleKeys : Reading Unit := do
  let s ← get
  if s.keys.any fun k => (k.map fun k => k.required && isStale s k).getD false then malformed
  set { s with keys := s.keys.map (unlessStale s) }

def allowKey (b : Bool) : Reading Unit := modify fun s => { s with keyAllowed := b }

def emit (t : Token) : Reading Unit := modify (·.emit t)

def insertAt (n : Nat) (t : Token) : Reading Unit :=
  modify fun s =>
    let i := n - s.taken
    { s with tokens := s.tokens.take i ++ t :: s.tokens.drop i }

def closeBlocks (column : Int) : Reading Unit :=
  modify fun s =>
    if s.inFlow then s
    else
      let closed := s.indents.takeWhile fun (i : Nat) => decide (column < i)
      { s with
        indents := s.indents.drop closed.length
        tokens := s.tokens ++ closed.map fun _ => .blockEnd }

def openBlock (column : Nat) : Reading Bool := do
  let s ← get
  if s.indent < column then
    set { s with indents := column :: s.indents }
    return true
  else return false

def skipToToken : (fuel : Nat) → Reading Unit
  | 0 => malformed
  | fuel + 1 => do
    skipWhile (· = ' ')
    skipComment
    match ← lineEnd with
    | [] => return
    | _ =>
      unless (← get).inFlow do allowKey true
      skipToToken fuel

def isNameChar (c : Char) : Bool := c.isAlphanum || c = '-' || c = '_'

def name : Reading String := do
  let cs ← takeWhile isNameChar
  if cs.isEmpty then malformed
  return String.ofList cs

def number : Reading Nat := do
  let cs := (← get).rest.takeWhile Char.isDigit
  if cs.isEmpty then malformed
  match Text.readInteger 10 (.ofChars cs) with
  | .ok n =>
    skip cs.length
    return n.toNat
  | .error e => throw (.scalar (.integer e))

def tagHandle : Reading String := do
  unless (← peek) = some '!' do malformed
  skip 1
  if (← peek) = some ' ' then return "!"
  let cs ← takeWhile isNameChar
  match ← peek with
  | some '!' =>
    skip 1
    return String.ofList ('!' :: cs ++ ['!'])
  | _ => malformed

def isUriChar (c : Char) : Bool := c.isAlphanum || "-;/?:@&=+$,_.!~*'()[]".contains c

def uriEscapes : (fuel : Nat) → Reading (List UInt8)
  | 0 => malformed
  | fuel + 1 => do
    match (← get).rest with
    | '%' :: a :: b :: _ =>
      unless isHexDigit a && isHexDigit b do malformed
      skip 3
      return UInt8.ofNat ((Text.readDigits? 16 [a, b]).getD 0) :: (← uriEscapes fuel)
    | '%' :: _ => malformed
    | _ => return []

def uriParts : (fuel : Nat) → Reading (List Char)
  | 0 => malformed
  | fuel + 1 => do
    let cs ← takeWhile isUriChar
    if (← peek) = some '%' then
      let bytes ← uriEscapes ((← get).rest.length + 1)
      match Text.Utf8.decode bytes with
      | .ok escaped => return cs ++ escaped ++ (← uriParts fuel)
      | .error _ => malformed
    else return cs

def uri : Reading String := do
  let s ← get
  let cs ← uriParts (s.rest.length + 1)
  if (← get).index = s.index then malformed
  return String.ofList cs

def directive : Reading Directive := do
  skip 1
  let word ← name
  requireNext Scan.atSpaceOrEnd
  let d ← if word = "YAML" then do
      skipWhile (· = ' ')
      let major ← number
      unless (← peek) = some '.' do malformed
      skip 1
      let _ ← number
      requireNext Scan.atSpaceOrEnd
      pure (Directive.version major)
    else if word = "TAG" then do
      skipWhile (· = ' ')
      let handle ← tagHandle
      requireNext (· = some ' ')
      skipWhile (· = ' ')
      let start ← uri
      requireNext Scan.atSpaceOrEnd
      pure (Directive.tag handle start)
    else do
      skipWhile (!Scan.isBreak ·)
      pure Directive.other
  emptyRestOfLine
  return d

def anchorName : Reading String := do
  skip 1
  let n ← name
  requireNext (Scan.endsAt fun c => Scan.isBlank c || "?:,]\x7d%@\x60".contains c)
  return n

def hasHandle (rest : List Char) : Bool :=
  (rest.takeWhile fun c => !(c = ' ' || Scan.isBreak c)).contains '!'

def tag : Reading Token := do
  let s ← get
  let t ← match s.peekAt 1 with
    | some '<' => do
      skip 2
      let suffix ← uri
      unless (← peek) = some '>' do malformed
      skip 1
      pure (Token.tag s.mark none suffix)
    | next => do
      if Scan.atBlankOrEnd next then
        skip 1
        pure (Token.tag s.mark none "!")
      else
        let handle ← if hasHandle (s.rest.drop 1) then tagHandle else do skip 1; pure "!"
        pure (Token.tag s.mark (some handle) (← uri))
  requireNext Scan.atSpaceOrEnd
  return t

def closeAll : Reading Unit := do
  closeBlocks (-1)
  dropKey
  allowKey false

def documentMark (t : Token) : Reading Unit := do
  closeAll
  skip 3
  emit t

def openFlow (t : Token) : Reading Unit := do
  noteKey
  modify fun s => { s with keys := none :: s.keys }
  allowKey true
  skip 1
  emit t

def closeFlow (t : Token) : Reading Unit := do
  unless (← get).inFlow do malformed
  dropKey
  modify fun s => { s with keys := s.keys.drop 1 }
  allowKey false
  skip 1
  emit t

def flowEntry : Reading Unit := do
  allowKey true
  dropKey
  skip 1
  emit .flowEntry

def blockEntry : Reading Unit := do
  let s ← get
  unless s.inFlow do
    unless s.keyAllowed do malformed
    if ← openBlock s.column then emit .blockSequenceStart
  allowKey true
  dropKey
  skip 1
  emit .blockEntry

def explicitKey : Reading Unit := do
  let s ← get
  unless s.inFlow do
    unless s.keyAllowed do malformed
    if ← openBlock s.column then emit .blockMappingStart
  allowKey (!s.inFlow)
  dropKey
  skip 1
  emit .key

/-- A colon: what came before it is a key if it may be one. -/
def valueMark : Reading Unit := do
  let s ← get
  match ← possibleKey with
  | some k =>
    setPossibleKey none
    insertAt k.tokenNumber .key
    unless s.inFlow do
      if ← openBlock k.column then insertAt k.tokenNumber .blockMappingStart
    allowKey false
  | none =>
    unless s.inFlow do
      unless s.keyAllowed do malformed
      if ← openBlock s.column then emit .blockMappingStart
    allowKey (!s.inFlow)
    dropKey
  skip 1
  emit .value

def content (token : Reading Token) : Reading Unit := do
  noteKey
  allowKey false
  emit (← token)

def block (fold : Bool) : Reading Unit := do
  allowKey true
  dropKey
  emit (.scalar (← blockScalar fold) false)

def startsPlain (inFlow : Bool) (c : Char) (next : Option Char) : Bool :=
  !(Scan.isBlank c || Scan.isBreak c || "-?:,[]\x7b\x7d#&*!|>'\"%@\x60".contains c) ||
    (!Scan.atBlankOrEnd next && (c = '-' || (!inFlow && (c = '?' || c = ':'))))

def next : Reading Unit := do
  if (← get).index = 0 && (← peek) = some '\uFEFF' then skip 1
  skipToToken ((← get).rest.length + 1)
  dropStaleKeys
  closeBlocks (← get).column
  let s ← get
  let after := s.peekAt 1
  match s.peek with
  | none =>
    closeAll
    emit .streamEnd
    modify fun s => { s with ended := true }
  | some c =>
    if c = '%' && s.column = 0 then
      closeAll
      emit (.directive (← directive))
    else if c = '-' && s.column = 0 && s.atDocumentMark then documentMark .documentStart
    else if c = '.' && s.column = 0 && s.atDocumentMark then documentMark .documentEnd
    else if c = '[' then openFlow .flowSequenceStart
    else if c = '\x7b' then openFlow .flowMappingStart
    else if c = ']' then closeFlow .flowSequenceEnd
    else if c = '\x7d' then closeFlow .flowMappingEnd
    else if c = ',' then flowEntry
    else if c = '-' && Scan.atBlankOrEnd after then blockEntry
    else if c = '?' && (s.inFlow || Scan.atBlankOrEnd after) then explicitKey
    else if c = ':' && (s.inFlow || Scan.atBlankOrEnd after) then valueMark
    else if c = '*' then content (.alias <$> anchorName)
    else if c = '&' then content (.anchor s.mark <$> anchorName)
    else if c = '!' then content tag
    else if c = '|' && !s.inFlow then block false
    else if c = '>' && !s.inFlow then block true
    else if c = '\x27' || c = '\x22' then content ((.scalar · false) <$> quotedScalar c)
    else if startsPlain s.inFlow c after then content ((.scalar · true) <$> plainScalar)
    else malformed

def isUnsettled : Reading Bool := do
  let s ← get
  if s.ended then return false
  if s.tokens.isEmpty then return true
  dropStaleKeys
  return (← get).firstPossibleKey == some s.taken

/-- Reads on until the first token is settled. Reading a token takes a character at least, so `fuel`
does not run out when it exceeds the length of the text by two. -/
def settle : (fuel : Nat) → Reading Unit
  | 0 => malformed
  | fuel + 1 => do
    if ← isUnsettled then
      next
      settle fuel

end SchemaToJava.Yaml.Reading
