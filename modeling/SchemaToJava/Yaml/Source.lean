import SchemaToJava.Text.Lines
import SchemaToJava.Yaml.Error

/-!
The text of a stream, which is read piece by piece. Something wrong in a late piece is met only if
the pieces before it are read to their end; the first two pieces are read at once.
-/

namespace SchemaToJava.Yaml

structure Source where
  chars : List Char
  flaw : Option LoadError
  deriving DecidableEq, Repr

def chunkSize : Nat := 8192

def pieceSize : Nat := 4096

def isStreamChar (c : Char) : Bool :=
  let n := c.toNat
  n = 9 || n = 10 || n = 13 || (0x20 ≤ n && n ≤ 0x7E) || n = 0x85 || (0xA0 ≤ n && n ≤ 0xD7FF) ||
    (0xE000 ≤ n && n ≤ 0xFFFD) || 0x10000 ≤ n

namespace Source

/-- A text up to the piece that holds the character of a number, in which something is wrong. -/
def upTo (n : Nat) (e : LoadError) (cs : List Char) : Except LoadError Source :=
  let size := n / pieceSize * pieceSize
  if size < 2 * pieceSize then .error e else .ok ⟨cs.take size, some e⟩

def checked (s : Source) : Except LoadError Source :=
  match s.chars.findIdx? (!isStreamChar ·) with
  | some i => upTo i .malformed s.chars
  | none => .ok s

/-- What there is of a text that breaks off: a carriage return at its end is kept back, since it
may be half of a line end. -/
def beforeFlaw (cs : List Char) : List Char :=
  if cs.getLast? = some '\r' then cs.dropLast else cs

def ofBytes (bytes : List UInt8) : Except LoadError Source := do
  let (cs, e) := Text.Utf8.decodeStream chunkSize bytes
  match e with
  | some e =>
    let cs := Text.unifyLineEnds (beforeFlaw cs)
    checked (← upTo cs.length (.encoding e) cs)
  | none => checked ⟨Text.unifyLineEnds cs, none⟩

end Source

end SchemaToJava.Yaml
