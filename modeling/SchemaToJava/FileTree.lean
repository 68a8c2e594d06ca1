import SchemaToJava.FileError
import SchemaToJava.Text.Utf8

/-!
Files and directories as a value. A location is the way down from the top; paths are walked part by
part, so that `..` and missing or mistaken directories on the way are noticed where they occur.
-/

namespace SchemaToJava

abbrev Location := List String

inductive Entry where
  | directory
  | file (bytes : List UInt8)
  deriving DecidableEq, Repr

/-- The entries below the top, in no particular order, and where the working directory is. -/
structure FileTree where
  home : Location
  entries : List (Location × Entry)
  deriving Repr

namespace FileTree

def get? (t : FileTree) (l : Location) : Option Entry :=
  if l = [] then some .directory else t.entries.lookup l

def insert (t : FileTree) (l : Location) (e : Entry) : FileTree :=
  { t with entries := (l, e) :: t.entries.filter (·.1 != l) }

def empty (home : Location) : FileTree :=
  ⟨home, (List.range home.length).map fun n => (home.take (n + 1), .directory)⟩

def longestName : Nat := 255

def longestPath : Nat := 4095

def step (t : FileTree) (l : Location) (part : String) : Except FileError.Reason Location :=
  match t.get? l with
  | none => .error .notFound
  | some (.file _) => .error .notDirectory
  | some .directory =>
    if part = ".." then .ok l.dropLast
    else if longestName < part.utf8ByteSize then .error .nameTooLong
    else .ok (l ++ [part])

def start (t : FileTree) (p : Path) : Location :=
  match p.anchor with
  | .working => t.home
  | _ => []

/-- The location a path leads to, where nothing needs to be yet. -/
def locate (t : FileTree) (p : Path) : Except FileError.Reason Location :=
  if longestPath < p.text.utf8ByteSize then .error .nameTooLong
  else p.parts.foldlM t.step (t.start p)

def find (t : FileTree) (p : Path) : Except FileError.Reason Entry := do
  match t.get? (← t.locate p) with
  | some e => return e
  | none => throw .notFound

def hasNull (p : Path) : Bool := p.parts.any (·.contains '\x00')

/-- What a path leads to, if anything. Only a name that is too long cannot be answered. -/
def find? (t : FileTree) (p : Path) : Except FileError (Option Entry) :=
  if hasNull p then .ok none
  else
    match t.find p with
    | .ok e => .ok (some e)
    | .error .nameTooLong => .error (.refused .nameTooLong p)
    | .error _ => .ok none

def isDirectory (t : FileTree) (p : Path) : Bool := t.find? p matches .ok (some .directory)

def read (t : FileTree) (p : Path) : Except FileError (List UInt8) :=
  if hasNull p then .error .nullInPath
  else
    match t.find p with
    | .ok (.file bytes) => .ok bytes
    | .ok .directory => .error (.refused .isDirectory p)
    | .error r => .error (.refused r p)

def write (t : FileTree) (p : Path) (bytes : List UInt8) : Except FileError FileTree :=
  if hasNull p then .error .nullInPath
  else
    match t.locate p with
    | .error r => .error (.refused r p)
    | .ok l =>
      match t.get? l with
      | some .directory => .error (.refused .isDirectory p)
      | _ => .ok (t.insert l (.file bytes))

def makeDirectory (t : FileTree) (p : Path) : Except FileError FileTree :=
  if hasNull p then .error .nullInPath
  else
    match t.locate p with
    | .error r => .error (.refused r p)
    | .ok l =>
      match t.get? l with
      | some _ => .error (.refused .alreadyThere p)
      | none => .ok (t.insert l .directory)

/-- Settles a failed attempt to create a directory: one that is already there will do. -/
def settle (t : FileTree) (p : Path) (e : FileError) : FileTree × Except FileError Unit :=
  match e with
  | .refused .notFound _ => (t, .error e)
  | .nullInPath => (t, .error e)
  | _ => (t, if t.isDirectory p then .ok () else .error e)

/-- Creates a directory and those above it that are missing. What was created before a failure
stays. -/
def makeDirectories (t : FileTree) (p : Path) : FileTree × Except FileError Unit :=
  match t.makeDirectory p with
  | .ok t => (t, .ok ())
  | .error (.refused .notFound q) =>
    if _h : p.parts = [] then (t, .error (.refused .notFound q))
    else
      match t.makeDirectories p.parent with
      | (t, .error e) => (t, .error e)
      | (t, .ok _) =>
        match t.makeDirectory p with
        | .ok t => (t, .ok ())
        | .error e => t.settle p e
  | .error e => t.settle p e
termination_by p.parts.length
decreasing_by
  rw [Path.length_parts_parent]
  have := List.length_pos_iff.mpr _h
  omega

def below (t : FileTree) (l : Location) : List (Location × Entry) :=
  t.entries.filterMap fun (m, e) =>
    if l.isPrefixOf m && l.length < m.length then some (m.drop l.length, e) else none

def filesBelow (t : FileTree) (p : Path) : List Location :=
  match t.locate p with
  | .error _ => []
  | .ok l => (t.below l).filterMap fun (m, e) => if e matches .file _ then some m else none

@[simp] theorem home_insert (t : FileTree) (l : Location) (e : Entry) :
    (t.insert l e).home = t.home := rfl

theorem get?_insert {l : Location} (h : l ≠ []) (t : FileTree) (e : Entry) (m : Location) :
    (t.insert l e).get? m = if m = l then some e else t.get? m := by
  by_cases hm : m = []
  · simp [hm, get?, h.symm]
  · by_cases hl : m = l
    · simp [hl, get?, insert, h]
    · simp only [get?, insert, hm, hl, if_false, List.lookup_cons]
      rw [show (m == l) = false from by simpa using hl]
      induction t.entries with
      | nil => rfl
      | cons x xs ih =>
        obtain ⟨n, f⟩ := x
        by_cases hn : n = l
        · subst hn
          have : (m == n) = false := by simpa using hl
          simpa [List.lookup_cons, this] using ih
        · by_cases hmn : m = n <;> simp_all [List.lookup_cons]

end FileTree

end SchemaToJava
