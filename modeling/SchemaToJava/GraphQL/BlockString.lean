/-!
The value of a block string: the raw lines without their common indentation and without the blank
lines at either end. The first line never counts towards the indentation and is never cut.
-/

namespace SchemaToJava.GraphQL.BlockString

private def isIndent (c : Char) : Bool := c = ' ' || c = '\t'

def indent (line : List Char) : Nat := (line.takeWhile isIndent).length

def isBlankLine (line : List Char) : Bool := line.all isIndent

def commonIndent (lines : List (List Char)) : Nat :=
  ((lines.filter (!isBlankLine ·)).map indent).min?.getD 0

def dropBlankEnds (lines : List (List Char)) : List (List Char) :=
  ((lines.dropWhile isBlankLine).reverse.dropWhile isBlankLine).reverse

/-- The raw lines of a block string with the layout taken out. A blank line loses as much as the
others do. -/
def dedent : List (List Char) → List (List Char)
  | [] => []
  | first :: rest =>
    let margin := commonIndent rest
    dropBlankEnds (first :: rest.map (·.drop margin))

def value (lines : List (List Char)) : List Char := ['\n'].intercalate (dedent lines)

example : value ["  a".toList, "    b".toList, "   c".toList] = "  a\n b\nc".toList := by decide

end SchemaToJava.GraphQL.BlockString
