import SchemaToJava.GraphQL.Token
import SchemaToJava.Text.Lines

/-!
The excerpt of a text that points at a place in it: the line with a caret below, and the lines
around it. A very long line is shown alone and in pieces.
-/

namespace SchemaToJava.GraphQL

structure ExcerptRow where
  label : String
  text : List Char
  deriving DecidableEq, Repr

namespace Excerpt

def longestLine : Nat := 120

def pieceSize : Nat := 80

def pieces (size : Nat) : (fuel : Nat) → List Char → List (List Char)
  | 0, cs => [cs]
  | fuel + 1, cs =>
    if cs.length ≤ size then [cs] else cs.take size :: pieces size fuel (cs.drop size)

def padLeft (width : Nat) (cs : List Char) : List Char :=
  List.replicate (width - cs.length) ' ' ++ cs

def caret (column : Nat) : ExcerptRow := ⟨"|", padLeft column ['^']⟩

def numberLabel (line : Nat) : String := s!"{line} |"

/-- The rows for a place in a long line: its pieces up to the one with the place, the caret, and one
piece more. -/
def longRows (line : List Char) (p : Position) : List ExcerptRow :=
  let parts := pieces pieceSize line.length line
  let index := min ((p.column - 1) / pieceSize) (parts.length - 1)
  let upTo := (parts.take (index + 1)).zipIdx.map fun (text, i) =>
    ⟨if i = 0 then numberLabel p.line else "|", text⟩
  upTo ++ caret (p.column - pieceSize * index) ::
    ((parts[index + 1]?).toList.map fun text => ⟨"|", text⟩)

def shortRows (before : Option (List Char)) (line : List Char) (after : Option (List Char))
    (p : Position) : List ExcerptRow :=
  (before.toList.map fun text => ⟨numberLabel (p.line - 1), text⟩) ++
    ⟨numberLabel p.line, line⟩ :: caret p.column ::
    (after.toList.map fun text => ⟨numberLabel (p.line + 1), text⟩)

def rows (text : List Char) (p : Position) : List ExcerptRow :=
  let ls := Text.lines text
  let line := ls[p.line - 1]?.getD []
  if longestLine < line.length then longRows line p
  else shortRows (if p.line ≤ 1 then none else ls[p.line - 2]?) line ls[p.line]? p

def rowText (margin : Nat) (r : ExcerptRow) : String :=
  String.ofList (padLeft margin r.label.toList ++ if r.text.isEmpty then [] else ' ' :: r.text)

def render (text : List Char) (p : Position) : String :=
  let rs := rows text p
  let margin := (rs.map (·.label.length)).max?.getD 0
  "\n".intercalate (rs.map (rowText margin))

end Excerpt

def SyntaxError.located (e : SyntaxError) (text : List Char) : String :=
  s!"{e.message}\n\nGraphQL request:{e.position.line}:{e.position.column}\n" ++
    Excerpt.render text e.position

example : Excerpt.render "a\nbc".toList ⟨2, 2⟩ = "1 | a\n2 | bc\n  |  ^" := by decide

end SchemaToJava.GraphQL
