import SchemaToJava.Java.TypeRef

/-!
How types are spelled within one source file. The first type with a simple name claims that name,
the file's own type before all others; a later type of the same simple name is written with its
package. A claim is never given up, so the spelling of a type does not change once it has been
claimed or refused.
-/

namespace SchemaToJava.Java

/-- The package of a source file and the simple names claimed so far, in the order of the claims. -/
structure ImportScope where
  package : String
  claimed : List (String × TypeRef)
  deriving DecidableEq, Repr

namespace ImportScope

def opened (package : String) (own : TypeRef) : ImportScope := ⟨package, [(own.simpleName, own)]⟩

def owner? (s : ImportScope) (name : String) : Option TypeRef := s.claimed.lookup name

def claim (s : ImportScope) (t : TypeRef) : ImportScope :=
  if t.isPrimitive || (s.owner? t.simpleName).isSome then s
  else { s with claimed := s.claimed ++ [(t.simpleName, t)] }

def claimAll (s : ImportScope) (ts : List TypeRef) : ImportScope := ts.foldl claim s

/-- How a type is written: by its simple name only if it has claimed that name. -/
def spelling (s : ImportScope) (t : TypeRef) : String :=
  if t.isPrimitive || s.owner? t.simpleName == some t then t.simpleName else t.canonicalName

def implicitPackages : List String := ["java.lang"]

def needsImport (s : ImportScope) (t : TypeRef) : Bool :=
  match t.package with
  | none => false
  | some p => p != s.package && !implicitPackages.contains p

def imports (s : ImportScope) : List String :=
  ((s.claimed.filter fun (_, t) => s.needsImport t).map fun (_, t) => t.canonicalName).mergeSort
    fun a b => decide (a ≤ b)

@[simp] theorem package_claim (s : ImportScope) (t : TypeRef) :
    (s.claim t).package = s.package := by
  unfold claim
  split <;> rfl

theorem owner?_claim_of_eq_some {s : ImportScope} {n : String} {u : TypeRef}
    (h : s.owner? n = some u) (t : TypeRef) : (s.claim t).owner? n = some u := by
  unfold claim
  split
  · exact h
  · simp_all [owner?, List.lookup_append]

theorem owner?_claimAll_of_eq_some {s : ImportScope} {n : String} {u : TypeRef}
    (h : s.owner? n = some u) (ts : List TypeRef) : (s.claimAll ts).owner? n = some u := by
  induction ts generalizing s with
  | nil => exact h
  | cons t ts ih => exact ih (owner?_claim_of_eq_some h t)

theorem spelling_claimAll {s : ImportScope} {t u : TypeRef} (h : s.owner? t.simpleName = some u)
    (ts : List TypeRef) : (s.claimAll ts).spelling t = s.spelling t := by
  simp [spelling, h, owner?_claimAll_of_eq_some h ts]

end ImportScope

end SchemaToJava.Java
