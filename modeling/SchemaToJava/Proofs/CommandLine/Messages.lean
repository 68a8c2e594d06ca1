import SchemaToJava.CommandLine.Commands
import SchemaToJava.Proofs.Bootstrap
import SchemaToJava.Proofs.Generation.Files
import SchemaToJava.Proofs.Java.LiteralReader

/-!
The messages of the commands, and what a console with styles has against them: nothing, unless the
path of a directory has an opening bracket, with which a tag may begin.
-/

namespace SchemaToJava

theorem Path.has_of_mem_text {p : Path} {c : Char} (h : c ∈ p.text.toList) (hdot : c ≠ '.')
    (hslash : c ≠ '/') : p.Has c := by
  unfold text at h
  split at h
  · simp [hdot] at h
  · rw [String.toList_append, List.mem_append] at h
    rcases h with hanchor | hparts
    · cases hp : p.anchor <;> simp [hp, Anchor.text, hslash] at hanchor
    · rw [String.toList_intercalate] at hparts
      rcases Java.mem_of_mem_intercalate hparts with hseparator | ⟨cs, hcs, hc⟩
      · exact absurd (List.mem_singleton.mp hseparator) hslash
      · obtain ⟨part, hpart, rfl⟩ := List.mem_map.mp hcs
        exact ⟨part, hpart, hc⟩

namespace Markup

open Text

theorem foldlM_behind_backslashes (n : Nat) (ps : List Piece) (opened : List Wide) :
    (backslashes n ++ ps).foldlM behind opened = ps.foldlM behind opened := by
  induction n with
  | zero => rfl
  | succ n ih => exact ih

/-- Nothing is wrong with what is left of a text while these styles are open, wherever it begins and
however many backslashes stand before it. -/
def Fits (opened : List Wide) (cs : List Char) : Prop :=
  ∀ position slashes, ∃ left, (read position 0 slashes cs).foldlM behind opened = .ok left

variable {opened : List Wide} {cs tail : List Char} {text : String}

theorem fits_nil (opened : List Wide) : Fits opened [] := by
  intro position slashes
  have hend := foldlM_behind_backslashes slashes [] opened
  rw [List.append_nil] at hend
  exact ⟨opened, hend⟩

theorem Fits.cons {c : Char} (hc : c ≠ '[') (h : Fits opened cs) : Fits opened (c :: cs) := by
  intro position slashes
  by_cases hslash : c = '\\'
  · obtain ⟨left, hleft⟩ := h (position + 1) (slashes + 1)
    refine ⟨left, ?_⟩
    rw [read, if_neg (Nat.lt_irrefl 0), if_pos hslash, hleft]
  · obtain ⟨left, hleft⟩ := h (position + 1) 0
    refine ⟨left, ?_⟩
    rw [read, if_neg (Nat.lt_irrefl 0), if_neg hslash, if_pos hc, foldlM_behind_backslashes]
    exact hleft

theorem Fits.append (hcs : '[' ∉ cs) (h : Fits opened tail) : Fits opened (cs ++ tail) := by
  induction cs with
  | nil => exact h
  | cons c cs ih =>
    obtain ⟨hc, hcs⟩ := not_or.mp (mt List.mem_cons.mpr hcs)
    exact (ih hcs).cons (Ne.symm hc)

theorem fits_of_not_mem (hcs : '[' ∉ cs) (opened : List Wide) : Fits opened cs := by
  have h := (fits_nil opened).append hcs
  rwa [List.append_nil] at h

def dim : Wide := styleOf ['d', 'i', 'm']

theorem fits_labelEnd (h : Fits [] cs) : Fits [dim] (":[/dim] ".toList ++ cs) := by
  intro position slashes
  obtain ⟨left, hleft⟩ := h (position + 8) 0
  refine ⟨left, ?_⟩
  rw [show ":[/dim] ".toList ++ cs = ':' :: ("[/dim] ".toList ++ cs) from rfl, read,
    if_neg (by decide), if_neg (by decide), if_pos (by decide), foldlM_behind_backslashes]
  exact hleft

theorem objection?_of_fits (h : Fits [] text.toList) : objection? text = none := by
  obtain ⟨left, hleft⟩ := h 0 0
  rw [objection?, pieces, hleft]

theorem objection?_append {lead : String} (position : Nat)
    (hlead : ∀ cs, (read 0 0 0 (lead.toList ++ cs)).foldlM behind [] =
      (read position 0 0 cs).foldlM behind opened) (h : Fits opened text.toList) :
    objection? (lead ++ text) = none := by
  obtain ⟨left, hleft⟩ := h position 0
  rw [objection?, pieces, String.toList_append, hlead, hleft]

theorem objection?_dim (h : Fits [dim] text.toList) : objection? ("[dim]" ++ text) = none :=
  objection?_append 5 (fun _ => rfl) h

theorem objection?_green (h : Fits [] text.toList) :
    objection? ("[green]✓[/green] " ++ text) = none :=
  objection?_append 17 (fun _ => rfl) h

end Markup

namespace CommandLine

open Markup

variable {text label : String}

theorem objection?_labelled (hlabel : '[' ∉ label.toList) (h : '[' ∉ text.toList) :
    Markup.objection? (labelled label text) = none := by
  have hfits := (fits_labelEnd (fits_of_not_mem h [])).append hlabel
  rw [← String.toList_append, ← String.toList_append] at hfits
  have hlead := objection?_dim hfits
  rwa [← String.append_assoc, ← String.append_assoc] at hlead

theorem objection?_success (h : '[' ∉ text.toList) : Markup.objection? (success text) = none :=
  objection?_green (fits_of_not_mem h [])

theorem bracket_not_mem_text {p : Path} (hp : ¬ p.Has '[') : '[' ∉ p.text.toList := fun h =>
  hp (Path.has_of_mem_text h (by decide) (by decide))

theorem bracket_not_mem_packageName {package : String} (h : Java.isPackageName package = true) :
    '[' ∉ package.toList := by
  intro hmem
  rcases Java.mem_segment_of_mem hmem with hdot | ⟨s, hs, hc⟩
  · exact absurd hdot (by decide)
  · have hsegment := Java.isPackageName_iff.mp h s hs
    exact Java.not_mem_of_isIdentifier hsegment (by decide) (by decide) hc

theorem objection?_opening {c : Config} (hb : Java.isPackageName c.packageName = true)
    (hs : ¬ c.schemaDir.Has '[') (ho : ¬ c.outputDir.Has '[') :
    ∀ text ∈ opening c, Markup.objection? text = none := by
  simp only [opening, List.forall_mem_cons, List.not_mem_nil, false_implies, implies_true, and_true]
  exact ⟨objection?_labelled (by decide) (bracket_not_mem_text hs),
    objection?_labelled (by decide) (bracket_not_mem_text ho),
    objection?_labelled (by decide) (bracket_not_mem_packageName hb)⟩

theorem objection?_summary {r : Generation.Result} (h : ∀ p ∈ r.writtenFiles, ¬ p.Has '[') :
    ∀ text ∈ summary r, Markup.objection? text = none := by
  intro text htext
  rcases List.mem_append.mp htext with hfile | hcount
  · obtain ⟨p, hp, rfl⟩ := List.mem_map.mp hfile
    have hdash : '[' ∉ "- ".toList := by decide
    have hfits := (fits_of_not_mem (bracket_not_mem_text (h p hp)) []).append hdash
    rw [← String.toList_append] at hfits
    exact objection?_of_fits hfits
  · have hdigits : ∀ n : Nat, '[' ∉ (toString n).toList := by
      intro n
      rw [Nat.toString_eq_repr, Nat.toList_repr]
      exact Java.not_mem_toDigits n (by decide)
    rw [List.mem_singleton.mp hcount]
    refine objection?_success ?_
    simp only [String.toList_append, List.mem_append, not_or]
    exact ⟨⟨⟨⟨by decide, hdigits _⟩, by decide⟩, hdigits _⟩, by decide⟩

theorem has_of_written {c : Config} {t : FileTree} (ht : t.WellFormed)
    (hb : Java.isPackageName c.packageName = true) {result : Generation.Result}
    (hrun : ((Generation.run c).on t).outcome = .ok result) {p : Path}
    (hp : p ∈ result.writtenFiles) (h : p.Has '[') : c.outputDir.Has '[' := by
  obtain ⟨plan, hplan⟩ := Generation.completed_of_ok ht hb hrun
  rw [hplan.writtenFiles, List.mem_eraseDups] at hp
  obtain ⟨a, ha, rfl⟩ := List.mem_map.mp hp
  have hlegal := Generation.legal_of_planned hb hplan.planned ha
  exact (hlegal.has_path_iff c.outputDir (by decide) (by decide) (by decide)).mp h

end CommandLine

end SchemaToJava
