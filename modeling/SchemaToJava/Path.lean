/-!
Paths of files and directories. A path is an anchor and its parts; texts that differ only in
repeated or trailing slashes or in `.` parts are one path. `..` parts are kept, since only the file
tree knows where they lead.
-/

namespace SchemaToJava

/-- Where a path starts: in the working directory, at the top, or at the top as written with
exactly two slashes. -/
inductive Path.Anchor where
  | working
  | top
  | doubleTop
  deriving DecidableEq, Repr

structure Path where
  anchor : Path.Anchor
  parts : List String
  deriving DecidableEq, Repr

namespace Path

def Anchor.text : Anchor → String
  | .working => ""
  | .top => "/"
  | .doubleTop => "//"

def Anchor.ofSlashes : Nat → Anchor
  | 0 => .working
  | 2 => .doubleTop
  | _ => .top

def partsOf (cs : List Char) : List String :=
  ((cs.splitOn '/').map String.ofList).filter fun p => p != "" && p != "."

def ofText (s : String) : Path :=
  ⟨.ofSlashes (s.toList.takeWhile (· == '/')).length, partsOf s.toList⟩

def here : Path := ⟨.working, []⟩

/-- Follows `q` from `p` on; an anchored `q` makes `p` void. -/
def join (p q : Path) : Path :=
  match q.anchor with
  | .working => ⟨p.anchor, p.parts ++ q.parts⟩
  | _ => q

def text (p : Path) : String :=
  if p = here then "." else p.anchor.text ++ "/".intercalate p.parts

/-- A character stands in some part. -/
def Has (p : Path) (c : Char) : Prop := ∃ part ∈ p.parts, c ∈ part.toList

def name (p : Path) : String := p.parts.getLast?.getD ""

def parent (p : Path) : Path := ⟨p.anchor, p.parts.dropLast⟩

def child (p : Path) (name : String) : Path := p.join (ofText name)

/-- Takes `..` as one step back, without asking where the step leads. -/
def collapse (parts : List String) : List String :=
  parts.foldl (fun done p => if p == ".." then done.dropLast else done ++ [p]) []

def absolute (home : List String) (p : Path) : Path :=
  match p.anchor with
  | .working => ⟨.top, collapse (home ++ p.parts)⟩
  | a => ⟨a, collapse p.parts⟩

/-- The place that a path leads to, where `home` are the parts of the working directory: the top has
one slash there, however the path spells it. -/
def resolved (home : List String) (p : Path) : Path := ⟨.top, (p.absolute home).parts⟩

@[simp] theorem anchor_resolved (home : List String) (p : Path) :
    (p.resolved home).anchor = .top := rfl

theorem length_parts_parent (p : Path) : p.parent.parts.length = p.parts.length - 1 := by
  simp [parent]

example : (ofText "a//./b/").text = "a/b" := by decide
example : (ofText "///a").text = "/a" := by decide
example : ((ofText "//a/../b").absolute []).text = "//b" := by decide
example : ((ofText "//a/../b").resolved []).text = "/b" := by decide
example : ((ofText "out").join (ofText "/b")).text = "/b" := by decide

end Path

end SchemaToJava
