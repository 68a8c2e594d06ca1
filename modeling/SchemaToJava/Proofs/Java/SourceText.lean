import SchemaToJava.Proofs.Java.Naming
import SchemaToJava.Proofs.Java.SourceReader

/-!
Both passes over a source file. The first one replaces Unicode escapes, which only string literals
contain; what it leaves is read as the outline of the file.
-/

namespace SchemaToJava.Java

namespace Translates

variable {s s' t t' : String}

theorem toList_append (h : Translates s.toList t.toList) (h' : Translates s'.toList t'.toList) :
    Translates (s ++ s').toList (t ++ t').toList := by
  rw [String.toList_append, String.toList_append]
  exact h.append h'

theorem join {α : Type} {f g : α → String} {xs : List α}
    (h : ∀ x ∈ xs, Translates (f x).toList (g x).toList) :
    Translates (String.join (xs.map f)).toList (String.join (xs.map g)).toList := by
  induction xs with
  | nil => exact nil
  | cons x xs ih =>
    rw [List.map_cons, List.map_cons, String.join_cons, String.join_cons]
    exact (h x List.mem_cons_self).toList_append (ih fun y hy => h y (List.mem_cons_of_mem x hy))

theorem intercalate {α : Type} {f g : α → String} {xs : List α} {separator : String}
    (hseparator : '\\' ∉ separator.toList) (h : ∀ x ∈ xs, Translates (f x).toList (g x).toList) :
    Translates (separator.intercalate (xs.map f)).toList
      (separator.intercalate (xs.map g)).toList := by
  cases xs with
  | nil => exact of_not_mem (by simp)
  | cons x xs =>
    rw [List.map_cons, List.map_cons, intercalate_cons, intercalate_cons, List.map_map, List.map_map]
    refine (h x List.mem_cons_self).toList_append (join fun y hy => ?_)
    exact (of_not_mem hseparator).toList_append (h y (List.mem_cons_of_mem x hy))

end Translates

theorem IsWord.translates {s : String} (h : IsWord s) : Translates s.toList s.toList := by
  refine .of_not_mem fun hmem => ?_
  have hpart := h.parts _ hmem
  revert hpart
  decide

theorem IsQualified.translates {s : String} (h : IsQualified s) : Translates s.toList s.toList := by
  refine .of_not_mem fun hmem => ?_
  have hpart := h.parts _ hmem
  revert hpart
  decide

theorem translates_memberValue (vs : List Literal) :
    Translates (memberValue (vs.map Literal.text)).toList
      (memberValue (vs.map Literal.translated)).toList := by
  by_cases hone : ∃ v, vs = [v]
  · obtain ⟨v, rfl⟩ := hone
    exact v.translates_text
  · rw [memberValue_eq (ne_singleton_of_map hone), memberValue_eq (ne_singleton_of_map hone)]
    refine (Translates.of_not_mem (by decide)).toList_append
      (Translates.toList_append ?_ (.of_not_mem (by decide)))
    exact .intercalate (by decide) fun v _ => v.translates_text

theorem translates_memberList {ms : List (String × List Literal)} (h : ∀ m ∈ ms, IsWord m.1) :
    Translates (Outline.Tag.text.memberList
        (ms.map fun m => (m.1, m.2.map Literal.text))).toList
      (Outline.Tag.text.memberList
        (ms.map fun m => (m.1, m.2.map Literal.translated))).toList := by
  by_cases hvalue : ∃ vs, ms = [("value", vs)]
  · obtain ⟨vs, rfl⟩ := hvalue
    exact translates_memberValue vs
  · rw [memberList_map_eq hvalue, memberList_map_eq hvalue]
    refine .intercalate (by decide) fun m hm => ?_
    exact (h m hm).translates.toList_append
      ((Translates.of_not_mem (by decide)).toList_append (translates_memberValue m.2))

section

variable {a : Outline.Tag String Literal} {v : Outline.Variable String Literal}

theorem translates_tag (h : a.Legible) :
    Translates (a.map id Literal.text).text.toList (a.map id Literal.translated).text.toList := by
  unfold Outline.Tag.text Outline.Tag.text.membersText
  refine (Translates.of_not_mem (by decide)).toList_append (h.type.translates.toList_append ?_)
  by_cases hnil : a.members = []
  · simp only [Outline.Tag.map, hnil]
    exact .of_not_mem (by decide)
  · have hsome : ∀ f : Literal → String, (a.map id f).members.isEmpty = false := by
      intro f
      simpa [Outline.Tag.map] using hnil
    rw [hsome, hsome, if_neg (by decide), if_neg (by decide)]
    exact (Translates.of_not_mem (by decide)).toList_append
      ((translates_memberList h.members).toList_append (.of_not_mem (by decide)))

theorem translates_annotationLines (indent : String) (hindent : '\\' ∉ indent.toList)
    {as : List (Outline.Tag String Literal)} (h : ∀ a ∈ as, a.Legible) :
    Translates (Outline.annotationLines indent (as.map (·.map id Literal.text))).toList
      (Outline.annotationLines indent (as.map (·.map id Literal.translated))).toList := by
  unfold Outline.annotationLines
  rw [List.map_map, List.map_map]
  refine .join fun a ha => ?_
  exact (Translates.of_not_mem hindent).toList_append
    ((translates_tag (h a ha)).toList_append (.of_not_mem (by decide)))

theorem translates_field (h : v.Legible) : Translates (v.map id Literal.text).fieldText.toList
    (v.map id Literal.translated).fieldText.toList := by
  unfold Outline.Variable.fieldText
  refine (translates_annotationLines _ (by decide) h.annotations).toList_append
    ((Translates.of_not_mem (by decide)).toList_append (h.type.translates.toList_append ?_))
  exact (Translates.of_not_mem (by decide)).toList_append
    (h.name.translates.toList_append (.of_not_mem (by decide)))

theorem translates_parameter (h : v.Legible) :
    Translates (v.map id Literal.text).parameterText.toList
      (v.map id Literal.translated).parameterText.toList := by
  unfold Outline.Variable.parameterText Outline.Variable.map
  rw [List.map_map, List.map_map]
  refine Translates.toList_append (.join fun a ha => ?_) (h.type.translates.toList_append
    ((Translates.of_not_mem (by decide)).toList_append h.name.translates))
  exact (translates_tag (h.annotations a ha)).toList_append (.of_not_mem (by decide))

theorem translates_method {m : Outline.Method String Literal} (h : m.Legible) :
    Translates (m.map id Literal.text).text.toList (m.map id Literal.translated).text.toList := by
  unfold Outline.Method.text
  refine (translates_annotationLines _ (by decide) h.annotations).toList_append
    ((Translates.of_not_mem (by decide)).toList_append (h.returnType.translates.toList_append
      ((Translates.of_not_mem (by decide)).toList_append (h.name.translates.toList_append
        ((Translates.of_not_mem (by decide)).toList_append
          (Translates.toList_append ?_ (.of_not_mem (by decide))))))))
  unfold Outline.Method.map
  rw [List.map_map, List.map_map]
  exact .intercalate (by decide) fun p hp => translates_parameter (h.parameters p hp)

theorem translates_body {b : Outline.Body String Literal} (h : b.Legible) :
    Translates (b.map id Literal.text).text.toList (b.map id Literal.translated).text.toList := by
  cases b with
  | fields fs =>
    unfold Outline.Body.map Outline.Body.text
    simp only [List.map_map]
    exact .intercalate (by decide) fun f hf => translates_field (h f hf)
  | methods ms =>
    unfold Outline.Body.map Outline.Body.text
    simp only [List.map_map]
    exact .intercalate (by decide) fun m hm => translates_method (h m hm)

theorem translates_importLines {is : List String} (h : ∀ i ∈ is, IsQualified i) :
    Translates (importLines is).toList (importLines is).toList := by
  unfold importLines
  split
  · exact .of_not_mem (by decide)
  · refine Translates.toList_append (.join fun i hi => ?_) (.of_not_mem (by decide))
    exact ((Translates.of_not_mem (by decide)).toList_append (h i hi).translates).toList_append
      (.of_not_mem (by decide))

/-- The first pass touches nothing but the literals. -/
theorem translates_text {is : List String} (his : ∀ i ∈ is, IsQualified i)
    {o : Outline String Literal} (h : o.Legible) :
    Translates ((o.map id Literal.text).text is).toList
      ((o.map id Literal.translated).text is).toList := by
  have plain : ∀ s : String, '\\' ∉ s.toList → Translates s.toList s.toList :=
    fun s hs => .of_not_mem hs
  -- `rfl` would compare the two ways to write literals
  have hkeyword : (o.body.map id Literal.translated).keyword =
      (o.body.map id Literal.text).keyword := by
    cases o.body <;> simp only [Outline.Body.map, Outline.Body.keyword]
  have hbody := (translates_body h.body).toList_append (plain "\x7d\n" (by decide))
  have hname := h.name.translates.toList_append ((plain " \x7b\n" (by decide)).toList_append hbody)
  have hheader := (isWord_keyword (o.body.map id Literal.text)).translates.toList_append
    ((plain " " (by decide)).toList_append hname)
  have hannotations := (translates_annotationLines "" (by decide) h.annotations).toList_append
    ((plain "public " (by decide)).toList_append hheader)
  have himports := (translates_importLines his).toList_append hannotations
  have hpackage := h.package.translates.toList_append
    ((plain ";\n\n" (by decide)).toList_append himports)
  unfold Outline.text Outline.map
  simp only [hkeyword]
  exact (plain "package " (by decide)).toList_append hpackage

end

def Outline.read (text : String) : Option (List String × Outline String Literal) := do
  let cs ← translate true 0 text.toList
  let (out, rest) ← Reader.file cs
  if rest.isEmpty then some out else none

/-- A source file is read as its outline, and its imports as they stand there. -/
theorem Outline.read_text {is : List String} (his : ∀ i ∈ is, IsQualified i)
    {o : Outline String Literal} (h : o.Legible) :
    Outline.read ((o.map id Literal.text).text is) = some (is, o) := by
  have htranslate := translates_text his h []
  rw [List.append_nil] at htranslate
  have hfile := reads_file his h [] trivial
  rw [List.append_nil] at hfile
  unfold Outline.read
  rw [htranslate]
  change ((Reader.file (_ ++ [])).bind _) = _
  rw [List.append_nil, hfile]
  rfl

def Outline.decode (text : String) : Option (Outline TypeRef Literal) :=
  (Outline.read text).map fun (is, o) => o.map (meaning o.package is) id

namespace Outline

section

variable {ν μ : Type} {g : ν → μ}

theorem Tag.Legible.of_map {a : Tag String ν} (h : (a.map id g).Legible) :
    a.Legible :=
  ⟨h.type, fun m hm => h.members (m.1, m.2.map g) (List.mem_map.mpr ⟨m, hm, rfl⟩)⟩

theorem Variable.Legible.of_map {v : Variable String ν} (h : (v.map id g).Legible) : v.Legible :=
  ⟨h.name, h.type, fun _ ha => .of_map (h.annotations _ (List.mem_map_of_mem ha))⟩

theorem Method.Legible.of_map {m : Method String ν} (h : (m.map id g).Legible) : m.Legible :=
  ⟨h.name, h.returnType, fun _ ha => .of_map (h.annotations _ (List.mem_map_of_mem ha)),
    fun _ hp => .of_map (h.parameters _ (List.mem_map_of_mem hp))⟩

theorem Body.Legible.of_map {b : Body String ν} (h : (b.map id g).Legible) : b.Legible := by
  cases b with
  | fields fs => exact fun f hf => .of_map (h _ (List.mem_map_of_mem hf))
  | methods ms => exact fun m hm => .of_map (h _ (List.mem_map_of_mem hm))

theorem Legible.of_map {o : Outline String ν} (h : (o.map id g).Legible) : o.Legible :=
  ⟨h.package, h.name, fun _ ha => .of_map (h.annotations _ (List.mem_map_of_mem ha)), .of_map h.body⟩

end

/-- A file whose names are legible and mean its types is read as what its artifact is. -/
theorem decode_render {a : Artifact} {o : Outline TypeRef Literal}
    (ho : o.map id Literal.text = a.outline)
    (hlegible : (a.outline.map a.scope.spelling id).Legible)
    (himports : ∀ i ∈ a.scope.imports, IsQualified i)
    (hmeaning : ∀ t ∈ a.references,
      meaning a.outline.package a.scope.imports (a.scope.spelling t) = t) :
    decode a.render = some o := by
  have hspelled : a.outline.map a.scope.spelling id =
      (o.map a.scope.spelling id).map id Literal.text := by
    rw [← ho, map_map, map_map]
    rfl
  have htypes : o.types = a.references := by
    rw [← Artifact.types_outline, ← ho, types_map, List.map_id]
  have hpackage : o.package = a.outline.package := by
    rw [← ho]
    rfl
  rw [hspelled] at hlegible
  have hread := read_text himports hlegible.of_map
  unfold decode
  rw [Artifact.render_eq, hspelled, hread, Option.map_some]
  refine congrArg some ?_
  change (o.map a.scope.spelling id).map (meaning o.package a.scope.imports) id = o
  rw [map_map, hpackage]
  exact map_eq_self fun t ht => hmeaning t (htypes ▸ ht)

end Outline

end SchemaToJava.Java
