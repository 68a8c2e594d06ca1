import SchemaToJava.Yaml.Error
import SchemaToJava.Yaml.Node

/-!
Merging of mappings. A merge key brings the entries of other mappings in front of a mapping's own;
those mappings take in what they are merged with first. A mapping may be merged with itself.
-/

namespace SchemaToJava.Yaml

abbrev Merging := StateT Graph (Except LoadError)

namespace Merging

def malformed {α : Type} : Merging α := throw .malformed

def entries (id : NodeId) : Merging (List NodeEntry) := do
  match (← get).entries? id with
  | some es => return es
  | none => malformed

/-- In a mapping, the mark of a default is an ordinary text. -/
def retag (keys : List NodeId) : Merging Unit :=
  modify fun g => keys.foldl (fun g k =>
    g.modify k fun n => if n.tag = .default then { n with tag := .text } else n) g

def settled (takeIn : NodeId → Merging Unit) (id : NodeId) : Merging (List NodeEntry) := do
  let _ ← entries id
  takeIn id
  entries id

/-- The entries that the value of a merge key brings: those of a mapping, or of several, of which
the first comes last. -/
def brought (takeIn : NodeId → Merging Unit) (value : NodeId) : Merging (List NodeEntry) := do
  match (← get).content? value with
  | some (.sequence items) =>
    let parts ← items.mapM (settled takeIn)
    return parts.reverse.flatten
  | _ => settled takeIn value

/-- Takes in what the merge keys from `start` on bring; `merged` is what those before have brought.
Every call but the last takes a merge key away and none is ever brought in, so `fuel` does not run
out when it exceeds the number of entries. -/
def takeInFrom : (fuel : Nat) → NodeId → (start : Nat) → (merged : List NodeEntry) → Merging Unit
  | 0, _, _, _ => malformed
  | fuel + 1, id, start, merged => do
    let own ← entries id
    let g ← get
    let place := start + (own.drop start).findIdx fun (k, _) => g.hasTag .merge k
    retag (((own.take place).drop start).map (·.1))
    match own[place]? with
    | none => modify (·.setContent id (.mapping (merged ++ own)))
    | some (_, value) =>
      modify (·.setContent id (.mapping (own.eraseIdx place)))
      let more ← brought (fun id => takeInFrom fuel id 0 []) value
      takeInFrom fuel id place (merged ++ more)

def takeIn (id : NodeId) : Merging Unit := do
  takeInFrom ((← get).entries.length + 1) id 0 []

end Merging

end SchemaToJava.Yaml
