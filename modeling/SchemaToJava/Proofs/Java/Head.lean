import Mathlib.Data.List.Chain
import SchemaToJava.Java.Source
import SchemaToJava.Proofs.Java.Name

/-!
What the head of a source file says: its package, and the public type that is declared in it. A
package name can have line ends, but no line that follows one is taken for a declaration.
-/

namespace SchemaToJava.Java

/-- How the line of a public type begins. -/
def opening : List Char := "public ".toList

def publicLine? (cs : List Char) : Option (List Char) :=
  (cs.splitOn '\n').find? (opening.isPrefixOf ·)

def publicType? (text : String) : Option (String × String) :=
  match (publicLine? text.toList).map fun line => (line.splitOn ' ').map String.ofList with
  | some ["public", kind, name, "\x7b"] => some (kind, name)
  | _ => none

/-- No line end has the first letter of `public` behind it. -/
def Calm (cs : List Char) : Prop := cs.IsChain fun c d => c = '\n' → d ≠ 'p'

section Lines

variable {cs ds : List Char}

theorem calm_of_not_mem (h : '\n' ∉ cs) : Calm cs := by
  induction cs with
  | nil => exact .nil
  | cons c cs ih =>
    rw [List.mem_cons, not_or] at h
    exact List.isChain_cons.mpr ⟨fun _ _ hc => absurd hc.symm h.1, ih h.2⟩

theorem Calm.append (h : Calm cs) (k : Calm ds)
    (hjoint : cs.getLast? ≠ some '\n' ∨ ds.head? ≠ some 'p') : Calm (cs ++ ds) := by
  refine List.isChain_append.mpr ⟨h, k, ?_⟩
  rintro c hc d hd rfl rfl
  exact hjoint.elim (fun hne => hne hc) fun hne => hne hd

theorem Calm.lines (h : Calm cs) : ∃ first rest, cs.splitOn '\n' = first :: rest ∧
    first <+: cs ∧ ∀ line ∈ rest, line.head? ≠ some 'p' := by
  induction cs with
  | nil => exact ⟨[], [], rfl, List.prefix_rfl, by simp⟩
  | cons c cs ih =>
    obtain ⟨hc, hcs⟩ := List.isChain_cons.mp h
    obtain ⟨first, rest, hlines, hfirst, hrest⟩ := ih hcs
    rw [List.splitOn_cons_eq_if_modifyHead, hlines]
    by_cases hend : c = '\n'
    · refine ⟨[], first :: rest, by simp [hend], List.nil_prefix, ?_⟩
      refine List.forall_mem_cons.mpr ⟨fun hp => ?_, hrest⟩
      obtain ⟨more, hmore⟩ := hfirst
      have hhead : cs.head? = some 'p' := by
        rw [← hmore, List.head?_append, hp]
        rfl
      exact hc 'p' hhead hend rfl
    · exact ⟨c :: first, rest, by simp [hend], List.cons_prefix_cons.mpr ⟨rfl, hfirst⟩, hrest⟩

theorem not_opening_of_head? (h : cs.head? ≠ some 'p') : opening.isPrefixOf cs = false := by
  rw [Bool.eq_false_iff, Ne, List.isPrefixOf_iff_prefix]
  rintro ⟨more, rfl⟩
  exact h rfl

/-- Only the first line of a calm text could be taken for a declaration. -/
theorem Calm.not_opened (h : Calm cs) (hfirst : opening.isPrefixOf cs = false) :
    ∀ line ∈ cs.splitOn '\n', opening.isPrefixOf line = false := by
  obtain ⟨first, rest, hlines, hprefix, hrest⟩ := h.lines
  rw [hlines]
  refine List.forall_mem_cons.mpr ⟨?_, fun line hline => not_opening_of_head? (hrest line hline)⟩
  rw [Bool.eq_false_iff, Ne, List.isPrefixOf_iff_prefix] at hfirst ⊢
  exact fun hopens => hfirst (hopens.trans hprefix)

theorem publicLine?_append {texts : List (List Char)}
    (h : ∀ text ∈ texts, ∀ line ∈ text.splitOn '\n', opening.isPrefixOf line = false)
    {line : List Char} (hend : '\n' ∉ line) (hopens : opening.isPrefixOf line = true)
    (rest : List Char) :
    publicLine? ((texts.flatMap (· ++ ['\n'])) ++ (line ++ '\n' :: rest)) = some line := by
  unfold publicLine?
  induction texts with
  | nil =>
    rw [List.flatMap_nil, List.nil_append, List.splitOn_append_cons_self,
      List.splitOn_eq_singleton hend]
    exact List.find?_cons_of_pos hopens
  | cons text texts ih =>
    rw [List.forall_mem_cons] at h
    rw [List.flatMap_cons, List.append_assoc, List.append_assoc, List.singleton_append,
      List.splitOn_append_cons_self, List.find?_append]
    have hnone : (text.splitOn '\n').find? (opening.isPrefixOf ·) = none :=
      List.find?_eq_none.mpr fun l hl => by simp [h.1 l hl]
    rw [hnone]
    exact ih h.2

end Lines

theorem calm_identifier {name : String} (h : isIdentifier name = true) : Calm name.toList := by
  have hparts := parts_of_hasIdentifierShape (isIdentifier_iff.mp h).1
  have hcalm : Calm (withoutLastLineEnd name.toList) := calm_of_not_mem fun hend =>
    absurd (hparts _ hend) (by decide)
  unfold withoutLastLineEnd at hcalm
  split at hcalm
  · rename_i hlast
    rw [← List.dropLast_append_getLast? _ hlast]
    exact hcalm.append (.singleton _) (.inr (by decide))
  · exact hcalm

theorem calm_intercalate {ss : List (List Char)} (h : ∀ s ∈ ss, Calm s) :
    Calm (['.'].intercalate ss) := by
  induction ss with
  | nil => exact .nil
  | cons s ss ih =>
    rw [List.forall_mem_cons] at h
    cases ss with
    | nil => simpa using h.1
    | cons t ss =>
      rw [List.intercalate_cons_cons, List.append_assoc]
      refine h.1.append ?_ (.inr (by simp))
      exact (calm_of_not_mem (by decide)).append (ih h.2) (.inl (by decide))

/-- A line end in a package name has a dot behind it. -/
theorem calm_package {package : String} (h : isPackageName package = true) :
    Calm package.toList := by
  have hpackage : ['.'].intercalate (package.toList.splitOn '.') = package.toList :=
    List.intercalate_splitOn '.'
  rw [← hpackage]
  refine calm_intercalate fun s hs => ?_
  have hcalm := calm_identifier (isPackageName_iff.mp h _ (List.mem_map_of_mem hs))
  rwa [String.toList_ofList] at hcalm

theorem importLines_eq (imports : List String) : importLines imports =
    String.join ((imports.map (fun i => "import " ++ i ++ ";") ++
      (if imports.isEmpty then [] else [""])).map (· ++ "\n")) := by
  have hend : (";\n" : String) = ";" ++ "\n" := by decide
  have hline : ∀ i, "import " ++ i ++ ";\n" = "import " ++ i ++ ";" ++ "\n" := by
    intro i
    rw [hend, String.append_assoc, String.append_assoc, String.append_assoc]
  unfold importLines
  split
  · simp_all
  · rw [List.map_append, String.join_append, List.map_map]
    simp only [hline]
    rfl

theorem AnnotationUse.head?_text (s : ImportScope) (u : AnnotationUse) :
    (u.text s).toList.head? = some '@' := by
  unfold AnnotationUse.text
  split <;> simp

namespace Artifact

def head (a : Artifact) : List String :=
  ["package " ++ a.package ++ ";", ""] ++
    (a.scope.imports.map (fun i => "import " ++ i ++ ";") ++
      (if a.scope.imports.isEmpty then [] else [""])) ++
    a.annotations.map (·.text a.scope)

def declaration (a : Artifact) : String := "public " ++ a.keyword ++ " " ++ a.name ++ " \x7b"

variable (a : Artifact)

theorem join_head : String.join (a.head.map (· ++ "\n")) =
    "package " ++ a.package ++ ";" ++ "\n" ++ ("" ++ "\n" ++ "") ++ importLines a.scope.imports ++
      annotationLines a.scope "" a.annotations := by
  have hannotations : annotationLines a.scope "" a.annotations =
      String.join ((a.annotations.map (·.text a.scope)).map (· ++ "\n")) := by
    rw [annotationLines, List.map_map]
    simp only [String.empty_append]
    rfl
  rw [head, List.map_append, List.map_append, String.join_append, String.join_append,
    importLines_eq, hannotations]
  rfl

theorem render_eq_head : a.render = String.join (a.head.map (· ++ "\n")) ++
    (a.declaration ++ "\n" ++ ("\n".intercalate (a.bodyTexts a.scope) ++ "\x7d\n")) := by
  have hpackage : (";\n\n" : String) = ";" ++ ("\n" ++ ("" ++ ("\n" ++ ""))) := by decide
  have hopen : (" \x7b\n" : String) = " \x7b" ++ "\n" := by decide
  rw [join_head, declaration]
  unfold render
  simp only [hpackage, hopen, String.append_assoc]

theorem toList_render : ∃ body : List Char, a.render.toList =
    (a.head.map String.toList).flatMap (· ++ ['\n']) ++ (a.declaration.toList ++ '\n' :: body) := by
  have htext (ls : List String) (line body : String) :
      (String.join (ls.map (· ++ "\n")) ++ (line ++ "\n" ++ body)).toList =
        (ls.map String.toList).flatMap (· ++ ['\n']) ++ (line.toList ++ '\n' :: body.toList) := by
    simp [String.toList_join, List.flatMap_map]
  rw [render_eq_head]
  exact ⟨_, htext _ _ _⟩

theorem package_prefix_render : ("package " ++ a.package ++ ";").toList <+: a.render.toList := by
  obtain ⟨body, htext⟩ := a.toList_render
  rw [htext, head]
  simp only [List.cons_append, List.map_cons, List.flatMap_cons, List.append_assoc]
  exact List.prefix_append _ _

theorem not_opened_head (hpackage : Calm a.package.toList)
    (himports : ∀ i ∈ a.scope.imports, Calm i.toList)
    (hannotations : ∀ u ∈ a.annotations, Calm (u.text a.scope).toList) :
    ∀ l ∈ a.head, ∀ line ∈ l.toList.splitOn '\n', opening.isPrefixOf line = false := by
  have hsemicolon : Calm ";".toList := calm_of_not_mem (by decide)
  have hblank : Calm "".toList := .nil
  have hstart (lead name : String) (hlead : '\n' ∉ lead.toList) (h : Calm name.toList) :
      Calm (lead ++ name ++ ";").toList := by
    rw [String.toList_append, String.toList_append]
    refine ((calm_of_not_mem hlead).append h (.inl ?_)).append hsemicolon (.inr (by decide))
    exact fun hlast => hlead (List.mem_of_getLast? hlast)
  intro l hl
  simp only [head, List.mem_append, List.mem_cons, List.not_mem_nil, or_false, List.mem_map] at hl
  rcases hl with ((rfl | rfl) | ⟨i, hi, rfl⟩ | hl) | ⟨u, hu, rfl⟩
  · refine (hstart "package " a.package (by decide) hpackage).not_opened ?_
    rw [String.toList_append, String.toList_append, List.append_assoc]
    rfl
  · exact hblank.not_opened rfl
  · refine (hstart "import " i (by decide) (himports i hi)).not_opened (not_opening_of_head? ?_)
    simp
  · split at hl
    · cases hl
    · rw [List.mem_singleton.mp hl]
      exact hblank.not_opened rfl
  · refine (hannotations u hu).not_opened (not_opening_of_head? ?_)
    rw [AnnotationUse.head?_text]
    decide

/-- The public type that a source file declares is its artifact's. -/
theorem publicType?_render (hpackage : Calm a.package.toList)
    (himports : ∀ i ∈ a.scope.imports, Calm i.toList)
    (hannotations : ∀ u ∈ a.annotations, Calm (u.text a.scope).toList)
    (hname : '\n' ∉ a.name.toList ∧ ' ' ∉ a.name.toList) :
    publicType? a.render = some (a.keyword, a.name) := by
  have hkeyword : '\n' ∉ a.keyword.toList ∧ ' ' ∉ a.keyword.toList := by
    cases a <;> simp [keyword]
  have hdeclaration : a.declaration.toList = "public".toList ++ ' ' :: (a.keyword.toList ++
      ' ' :: (a.name.toList ++ ' ' :: "\x7b".toList)) := by
    simp [declaration]
  have hend : '\n' ∉ a.declaration.toList := by
    rw [hdeclaration]
    simp [hkeyword.1, hname.1]
  have hopens : opening.isPrefixOf a.declaration.toList = true := by
    rw [hdeclaration]
    rfl
  have hwords : a.declaration.toList.splitOn ' ' =
      ["public".toList, a.keyword.toList, a.name.toList, "\x7b".toList] := by
    rw [hdeclaration, List.splitOn_append_cons_self, List.splitOn_append_cons_self,
      List.splitOn_append_cons_self, List.splitOn_eq_singleton hkeyword.2,
      List.splitOn_eq_singleton hname.2]
    rfl
  have hhead : ∀ text ∈ a.head.map String.toList, ∀ line ∈ text.splitOn '\n',
      opening.isPrefixOf line = false := by
    rw [List.forall_mem_map]
    exact a.not_opened_head hpackage himports hannotations
  have hline : publicLine? a.render.toList = some a.declaration.toList := by
    obtain ⟨body, htext⟩ := a.toList_render
    rw [htext]
    exact publicLine?_append hhead hend hopens body
  rw [publicType?, hline, Option.map_some, hwords]
  simp

end Artifact

end SchemaToJava.Java
