/-!
Lines. A line ends at a line feed, at a carriage return, or at the two in this order.
-/

namespace SchemaToJava.Text

def unifyLineEnds : List Char → List Char
  | [] => []
  | '\r' :: '\n' :: r => '\n' :: unifyLineEnds r
  | '\r' :: r => '\n' :: unifyLineEnds r
  | c :: r => c :: unifyLineEnds r

def lines (cs : List Char) : List (List Char) := (unifyLineEnds cs).splitOn '\n'

end SchemaToJava.Text
