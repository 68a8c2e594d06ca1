import SchemaToJava.Proofs.FileTree.Beside
import SchemaToJava.Proofs.FileTree.Within
import SchemaToJava.Proofs.Generation.Steps
import SchemaToJava.Proofs.SchemaFile.Discovery

/-!
Generation on two trees that differ in one file. If the file is left out and nothing is looked for
or written by a path that names it, the two runs are in step: they end in the same way, tell the
same and write the same files.
-/

namespace SchemaToJava

namespace Run

variable {α β : Type} {l : Location} {bytes : List UInt8} {t u : FileTree}

/-- On two trees that differ in one file a run has the same outcome and the same notices. What it
leaves differs in that file only. -/
def InStep (l : Location) (bytes : List UInt8) (x : Run α) (t u : FileTree) : Prop :=
  ∃ o es t' u' files, x.Ends t o es t' ∧ x.Ends u o es u' ∧ FileTree.Beside l bytes t' u' ∧
    t.Wrote files t'

namespace InStep

theorem of_ends {x : Run α} {o : Except Fault α} {es : List Event} (h : t.Beside l bytes u)
    (ht : x.Ends t o es t) (hu : x.Ends u o es u) : InStep l bytes x t u :=
  ⟨o, es, t, u, [], ht, hu, h, .refl h.wellFormed⟩

theorem pure (h : t.Beside l bytes u) (a : α) : InStep l bytes (pure a : Run α) t u :=
  of_ends h (.pure a t) (.pure a u)

theorem note (h : t.Beside l bytes u) (e : Event) : InStep l bytes (note e) t u := by
  cases hvisible : e.isVisible .info with
  | false => exact of_ends h (.detail hvisible t) (.detail hvisible u)
  | true => exact of_ends h (.note hvisible t) (.note hvisible u)

theorem bind {x : Run α} {g : α → Run β} (hx : InStep l bytes x t u)
    (hg : ∀ a t' u' files, (x.on t).outcome = .ok a → t'.Beside l bytes u' → t.Wrote files t' →
      InStep l bytes (g a) t' u') : InStep l bytes (x >>= g) t u := by
  obtain ⟨o, es, t', u', files, ht, hu, hbeside, hwrote⟩ := hx
  cases o with
  | error f =>
    exact ⟨.error f, es, t', u', files, ht.bind_error g, hu.bind_error g, hbeside, hwrote⟩
  | ok a =>
    obtain ⟨o, fs, t'', u'', more, ht', hu', hlast, hmore⟩ :=
      hg a t' u' files ht.outcome hbeside hwrote
    exact ⟨o, es ++ fs, t'', u'', files ++ more, ht.bind ht', hu.bind hu', hlast,
      hwrote.trans hmore⟩

/-- What a pass over a list needs of a tree has to stay while files are written. -/
theorem mapM {P : FileTree → Prop} {g : α → Run β} {xs : List α}
    (hstays : ∀ t t' files, P t → t.Wrote files t' → P t')
    (hg : ∀ a ∈ xs, ∀ t u, t.Beside l bytes u → P t → InStep l bytes (g a) t u)
    (h : t.Beside l bytes u) (ht : P t) : InStep l bytes (xs.mapM g) t u := by
  induction xs generalizing t u with
  | nil => exact pure h []
  | cons a xs ih =>
    rw [List.mapM_cons]
    refine bind (hg a List.mem_cons_self t u h ht) fun b t' u' files _ h' hwrote => ?_
    have hrest := ih (fun c hc => hg c (List.mem_cons_of_mem a hc)) h'
      (hstays t t' files ht hwrote)
    exact bind hrest fun bs _ _ _ _ h'' _ => pure h'' (b :: bs)

theorem foldlM {P : FileTree → Prop} {g : β → α → Run β} {xs : List α}
    (hstays : ∀ t t' files, P t → t.Wrote files t' → P t')
    (hg : ∀ b, ∀ a ∈ xs, ∀ t u, t.Beside l bytes u → P t → InStep l bytes (g b a) t u) (b : β)
    (h : t.Beside l bytes u) (ht : P t) : InStep l bytes (xs.foldlM g b) t u := by
  induction xs generalizing b t u with
  | nil => exact pure h b
  | cons a xs ih =>
    rw [List.foldlM_cons]
    refine bind (hg b a List.mem_cons_self t u h ht) fun c t' u' files _ h' hwrote => ?_
    exact ih (fun d e he => hg d e (List.mem_cons_of_mem a he)) c h' (hstays t t' files ht hwrote)

theorem makeDirectories {p : Path} (h : t.Beside l bytes u) (hp : t.Avoids l p)
    (fault : FileError → Fault) : InStep l bytes (makeDirectories p fault) t u := by
  obtain ⟨u', hu', hbeside⟩ := h.makeDirectories hp
  have hu := Ends.makeDirectories p fault u
  rw [hu'] at hu
  exact ⟨_, [], _, u', [], .makeDirectories p fault t, hu, hbeside,
    .of_makeDirectories h.wellFormed p⟩

theorem write {p : Path} (h : t.Beside l bytes u) (hp : t.Avoids l p) (content : List UInt8)
    (fault : FileError → Fault) : InStep l bytes (write p content fault) t u := by
  rcases h.write hp content with ⟨e, ht, hu⟩ | ⟨t', u', ht, hu, hbeside⟩
  · exact of_ends h (.write_error ht fault) (.write_error hu fault)
  · exact ⟨.ok (), [], t', u', _, .write_ok ht fault, .write_ok hu fault, hbeside,
      .of_write h.wellFormed ht⟩

end InStep

end Run

namespace SchemaFile

variable {t u : FileTree} {l : Location} {bytes : List UInt8} {file : Path}

theorem IsSchemaFile.of_wrote (hf : IsSchemaFile t file) {files : List (Location × List UInt8)}
    (h : t.Wrote files u) : IsSchemaFile u file := by
  obtain ⟨hl, hname, hfile, hend⟩ := hf
  have hthere := h.within.files (FileTree.isSome_fileAt?_iff.mpr ⟨_, hfile⟩)
  obtain ⟨held, hheld⟩ := FileTree.isSome_fileAt?_iff.mp hthere
  exact .intro (h.locate hl) hname hheld hend

section Finding

variable {directory : Path} {exclude : List String}

end Finding

end SchemaFile

namespace Generation

open Java SchemaFile

variable {t u : FileTree} {l : Location} {bytes : List UInt8} {c : Config} {file : Path}

end Generation

end SchemaToJava
