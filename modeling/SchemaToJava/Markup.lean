import SchemaToJava.Text.LowerCase

/-!
Texts with style marks, and consoles, which may refuse to print them. `[bold]` opens a style,
`[/bold]` closes the last one of that name, and `[/]` whatever was opened last; a tag that closes
nothing is an error.
-/

namespace SchemaToJava

namespace Markup

open Text

inductive Piece where
  | char (c : Char)
  | tag (position : Nat) (body : List Char)
  deriving DecidableEq, Repr

def body? : List Char → Option (List Char)
  | [] => none
  | c :: rest =>
    let inside := rest.takeWhile fun d => d ≠ '[' && d ≠ ']'
    let isTag := (c.isLower || c = '#' || c = '/' || c = '@') &&
      (rest.drop inside.length).head? = some ']'
    if isTag then some (c :: inside) else none

def backslashes (n : Nat) : List Piece := List.replicate n (.char '\\')

/-- The pieces of a text. The next `skip` characters are those of a tag, and `slashes` backslashes
stand just before: in front of a tag half of them are shown, and an odd one makes it plain text. -/
def read (position skip slashes : Nat) : List Char → List Piece
  | [] => backslashes slashes
  | c :: rest =>
    if 0 < skip then read (position + 1) (skip - 1) 0 rest
    else if c = '\\' then read (position + 1) 0 (slashes + 1) rest
    else if c ≠ '[' then backslashes slashes ++ .char c :: read (position + 1) 0 0 rest
    else
      match body? rest with
      | none => backslashes (slashes - 1) ++ .char c :: read (position + 1) 0 0 rest
      | some body =>
        backslashes (slashes / 2) ++
          if slashes % 2 = 0 then
            .tag position body :: read (position + 1) (body.length + 1) 0 rest
          else .char c :: read (position + 1) 0 0 rest

def pieces (text : String) : List Piece := read 0 0 0 text.toList

def shown (text : String) : String :=
  String.ofList ((pieces text).filterMap fun
    | .char c => some c
    | .tag _ _ => none)

/-- Names spell one style if they differ in case or in the blanks around them only. -/
def styleOf (name : List Char) : Wide := lower (.ofChars (trimChars name))

def behind (opened : List Wide) : Piece → Except String (List Wide)
  | .char _ => .ok opened
  | .tag position body =>
    match body.takeWhile (· ≠ '=') with
    | '/' :: name =>
      if name.all isBlank then
        match opened with
        | [] => .error s!"closing tag '[/]' at position {position} has nothing to close"
        | _ :: rest => .ok rest
      else if styleOf name ∈ opened then .ok (opened.erase (styleOf name))
      else
        let tag := String.ofList body
        .error s!"closing tag '[{tag}]' at position {position} doesn't match any open tag"
    | name => .ok (styleOf name :: opened)

/-- What is wrong with a text. Styles may stay open. -/
def objection? (text : String) : Option String :=
  match (pieces text).foldlM behind [] with
  | .ok _ => none
  | .error message => some message

example : shown "[dim]Package:[/dim] a[0]" = "Package: a[0]" := by cbv
example : objection? "[dim]Package:[/dim] [/]" =
    some "closing tag '[/]' at position 20 has nothing to close" := by cbv

end Markup

structure Console where
  objection? : String → Option String

def Console.styled : Console := ⟨Markup.objection?⟩

end SchemaToJava
