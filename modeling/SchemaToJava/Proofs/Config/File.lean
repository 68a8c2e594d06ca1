import SchemaToJava.Config.File
import SchemaToJava.Proofs.FileTree.Refusal
import SchemaToJava.Proofs.Run

/-!
Loading configuration files. A file that is of no use is reported, whatever it holds, with two
exceptions: bytes that cannot be decoded, and scalars that do not fit their kind.
-/

namespace SchemaToJava.Config

def loaded (t : FileTree) (p : Path) : Except Fault Yaml.Document := do
  let bytes ← (t.read p).mapError (Run.fileFault fun e => .configFile p (.file e))
  Prod.fst <$> documentOf p bytes

theorem load_ends (t : FileTree) (p : Path) : (load p).Ends t (loaded t p) [] t := by
  unfold load loaded
  refine (Run.Ends.inspect (fun t => t.read p) t).bind ?_
  cases t.read p with
  | error e => exact (Run.Ends.orFault_error _ e t).bind_error _
  | ok bytes =>
    refine (Run.Ends.orFault_ok _ bytes t).bind ?_
    change Run.Ends _ t (Prod.fst <$> documentOf p bytes) [] t
    cases documentOf p bytes with
    | error f => exact (Run.Ends.orFault_error id f t).bind_error _
    | ok x =>
      obtain ⟨d, hasEntries⟩ := x
      refine (Run.Ends.orFault_ok id (d, hasEntries) t).bind ?_
      cases hasEntries with
      | false => exact Run.Ends.pure d t
      | true => exact (Run.Ends.detail rfl t).bind (Run.Ends.pure d t)

end SchemaToJava.Config
