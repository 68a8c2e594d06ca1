/-!
Text in columns of characters. Lines are broken between words; only a word that is wider than its
column is cut.
-/

namespace SchemaToJava.Text

def padded (width : Nat) (line : List Char) : List Char :=
  line ++ List.replicate (width - line.length) ' '

def pieces (width : Nat) (word : List Char) : List (List Char) :=
  if width = 0 || word.length ≤ width then [word]
  else word.take width :: pieces width (word.drop width)
termination_by word.length
decreasing_by
  simp_all
  omega

def addWord (width : Nat) (lines : List (List Char)) (word : List Char) : List (List Char) :=
  match lines with
  | line :: above =>
    if line.length + 1 + word.length ≤ width then (line ++ ' ' :: word) :: above
    else (pieces width word).reverse ++ lines
  | [] => (pieces width word).reverse

def wrap (width : Nat) (text : List Char) : List (List Char) :=
  ((text.splitOn ' ').foldl (addWord width) []).reverse

def columnGap : List Char := [' ', ' ']

def sideBySide (widths : List Nat) (texts : List (List Char)) : List (List Char) :=
  let columns := List.zipWith (fun width text => (width, wrap width text)) widths texts
  let height := columns.foldl (fun n (_, lines) => if n < lines.length then lines.length else n) 0
  (List.range height).map fun i =>
    columnGap.intercalate (columns.map fun (width, lines) => padded width (lines[i]?.getD []))

example : wrap 5 "ab cd efghijk".toList = ["ab cd", "efghi", "jk"].map String.toList := by
  decide +kernel

end SchemaToJava.Text
