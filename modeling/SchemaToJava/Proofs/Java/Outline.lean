import SchemaToJava.Java.Source

/-!
What stands in a source file, apart from how it is spelled. Types and member values are parameters:
an outline of type references is what an artifact is, and an outline of texts is what its file says.
-/

namespace SchemaToJava.Java

structure Outline.Tag (τ ν : Type) where
  type : τ
  members : List (String × List ν)
  deriving DecidableEq, Repr

structure Outline.Variable (τ ν : Type) where
  name : String
  type : τ
  annotations : List (Outline.Tag τ ν)
  deriving DecidableEq, Repr

structure Outline.Method (τ ν : Type) where
  name : String
  returnType : τ
  annotations : List (Outline.Tag τ ν)
  parameters : List (Outline.Variable τ ν)
  deriving DecidableEq, Repr

/-- A class has fields, an interface has methods. -/
inductive Outline.Body (τ ν : Type) where
  | fields (fs : List (Outline.Variable τ ν))
  | methods (ms : List (Outline.Method τ ν))
  deriving DecidableEq, Repr

structure Outline (τ ν : Type) where
  package : String
  name : String
  annotations : List (Outline.Tag τ ν)
  body : Outline.Body τ ν
  deriving DecidableEq, Repr

namespace Outline

section Map

variable {τ σ ν μ : Type}

def Tag.map (f : τ → σ) (g : ν → μ) (a : Tag τ ν) : Tag σ μ :=
  ⟨f a.type, a.members.map fun (n, vs) => (n, vs.map g)⟩

def Variable.map (f : τ → σ) (g : ν → μ) (v : Variable τ ν) : Variable σ μ :=
  ⟨v.name, f v.type, v.annotations.map (·.map f g)⟩

def Method.map (f : τ → σ) (g : ν → μ) (m : Method τ ν) : Method σ μ :=
  ⟨m.name, f m.returnType, m.annotations.map (·.map f g), m.parameters.map (·.map f g)⟩

def Body.map (f : τ → σ) (g : ν → μ) : Body τ ν → Body σ μ
  | .fields fs => .fields (fs.map (·.map f g))
  | .methods ms => .methods (ms.map (·.map f g))

def map (f : τ → σ) (g : ν → μ) (o : Outline τ ν) : Outline σ μ :=
  ⟨o.package, o.name, o.annotations.map (·.map f g), o.body.map f g⟩

def Variable.types (v : Variable τ ν) : List τ := v.annotations.map (·.type) ++ [v.type]

def Method.types (m : Method τ ν) : List τ :=
  m.annotations.map (·.type) ++ m.returnType :: m.parameters.flatMap (·.types)

def Body.types : Body τ ν → List τ
  | .fields fs => fs.flatMap (·.types)
  | .methods ms => ms.flatMap (·.types)

def types (o : Outline τ ν) : List τ := o.annotations.map (·.type) ++ o.body.types

end Map

section Laws

variable {τ σ ρ ν μ κ : Type} (f : τ → σ) (g : ν → μ) (f' : σ → ρ) (g' : μ → κ)

theorem Tag.map_map (a : Tag τ ν) :
    (a.map f g).map f' g' = a.map (f' ∘ f) (g' ∘ g) := by
  simp [Tag.map, Function.comp_def]

theorem Variable.map_map (v : Variable τ ν) :
    (v.map f g).map f' g' = v.map (f' ∘ f) (g' ∘ g) := by
  simp [Variable.map, Tag.map_map]

theorem Method.map_map (m : Method τ ν) :
    (m.map f g).map f' g' = m.map (f' ∘ f) (g' ∘ g) := by
  simp [Method.map, Tag.map_map, Variable.map_map]

theorem map_map (o : Outline τ ν) : (o.map f g).map f' g' = o.map (f' ∘ f) (g' ∘ g) := by
  obtain ⟨package, name, annotations, body⟩ := o
  cases body with
  | fields fs => simp [map, Body.map, Tag.map_map, Variable.map_map]
  | methods ms => simp [map, Body.map, Tag.map_map, Method.map_map]

theorem Variable.types_map (v : Variable τ ν) : (v.map f g).types = v.types.map f := by
  simp [Variable.types, Variable.map, Tag.map]

theorem Method.types_map (m : Method τ ν) : (m.map f g).types = m.types.map f := by
  simp [Method.types, Method.map, Tag.map, List.flatMap_map, List.map_flatMap,
    Variable.types_map]

theorem types_map (o : Outline τ ν) : (o.map f g).types = o.types.map f := by
  obtain ⟨package, name, annotations, body⟩ := o
  cases body with
  | fields fs =>
    simp [types, map, Body.types, Body.map, Tag.map, List.flatMap_map, List.map_flatMap,
      Variable.types_map]
  | methods ms =>
    simp [types, map, Body.types, Body.map, Tag.map, List.flatMap_map, List.map_flatMap,
      Method.types_map]

end Laws

section Fixed

variable {τ ν : Type} {f : τ → τ}

theorem Tag.map_eq_self {a : Tag τ ν} (h : f a.type = a.type) : a.map f id = a := by
  simp [Tag.map, h]

theorem annotations_eq_self {as : List (Tag τ ν)} (h : ∀ a ∈ as, f a.type = a.type) :
    as.map (·.map f id) = as := by
  rw [List.map_congr_left fun a ha => Tag.map_eq_self (h a ha), List.map_id']

theorem Variable.map_eq_self {v : Variable τ ν} (h : ∀ t ∈ v.types, f t = t) : v.map f id = v := by
  have hannotations := annotations_eq_self fun a ha =>
    h _ (List.mem_append_left _ (List.mem_map_of_mem ha))
  have htype := h v.type (List.mem_append_right _ List.mem_cons_self)
  unfold Variable.map
  rw [hannotations, htype]

theorem variables_eq_self {vs : List (Variable τ ν)} (h : ∀ t ∈ vs.flatMap (·.types), f t = t) :
    vs.map (·.map f id) = vs := by
  have hall : ∀ v ∈ vs, v.map f id = v := fun v hv =>
    Variable.map_eq_self fun t ht => h t (List.mem_flatMap.mpr ⟨v, hv, ht⟩)
  rw [List.map_congr_left hall, List.map_id']

theorem Method.map_eq_self {m : Method τ ν} (h : ∀ t ∈ m.types, f t = t) : m.map f id = m := by
  have hannotations := annotations_eq_self fun a ha =>
    h _ (List.mem_append_left _ (List.mem_map_of_mem ha))
  have hrest := fun t ht => h t (List.mem_append_right _ ht)
  have htype := hrest m.returnType List.mem_cons_self
  have hparameters := variables_eq_self fun t ht => hrest t (List.mem_cons_of_mem _ ht)
  unfold Method.map
  rw [hannotations, htype, hparameters]

theorem map_eq_self {o : Outline τ ν} (h : ∀ t ∈ o.types, f t = t) : o.map f id = o := by
  obtain ⟨package, name, annotations, body⟩ := o
  have hannotations := annotations_eq_self fun a ha =>
    h _ (List.mem_append_left _ (List.mem_map_of_mem ha))
  have hbody := fun t ht => h t (List.mem_append_right _ ht)
  cases body with
  | fields fs =>
    simp only [map, Body.map]
    rw [hannotations, variables_eq_self hbody]
  | methods ms =>
    have hall : ∀ m ∈ ms, m.map f id = m := fun m hm =>
      Method.map_eq_self fun t ht => hbody t (List.mem_flatMap.mpr ⟨m, hm, ht⟩)
    simp only [map, Body.map]
    rw [hannotations, List.map_congr_left hall, List.map_id']

end Fixed

def Tag.text (a : Tag String String) : String :=
  "@" ++ (a.type ++ membersText a.members)
where
  memberList : List (String × List String) → String
    | [("value", vs)] => memberValue vs
    | ms => ", ".intercalate (ms.map fun (n, vs) => n ++ (" = " ++ memberValue vs))
  membersText (ms : List (String × List String)) : String :=
    if ms.isEmpty then "" else "(" ++ (memberList ms ++ ")")

def annotationLines (indent : String) (as : List (Tag String String)) : String :=
  String.join (as.map fun a => indent ++ (a.text ++ "\n"))

def Variable.fieldText (v : Variable String String) : String :=
  annotationLines "  " v.annotations ++ ("  private " ++ (v.type ++ (" " ++ (v.name ++ ";\n"))))

def Variable.parameterText (v : Variable String String) : String :=
  String.join (v.annotations.map (·.text ++ " ")) ++ (v.type ++ (" " ++ v.name))

def Method.text (m : Method String String) : String :=
  annotationLines "  " m.annotations ++ ("  " ++ (m.returnType ++ (" " ++ (m.name ++ ("(" ++
    (", ".intercalate (m.parameters.map (·.parameterText)) ++ ");\n"))))))

def Body.keyword : Body String String → String
  | .fields _ => "class"
  | .methods _ => "interface"

def Body.text : Body String String → String
  | .fields fs => "\n".intercalate (fs.map (·.fieldText))
  | .methods ms => "\n".intercalate (ms.map (·.text))

def text (imports : List String) (o : Outline String String) : String :=
  "package " ++ (o.package ++ (";\n\n" ++ (importLines imports ++ (annotationLines "" o.annotations ++
    ("public " ++ (o.body.keyword ++ (" " ++ (o.name ++ (" \x7b\n" ++
      (o.body.text ++ "\x7d\n"))))))))))

end Outline

def AnnotationUse.outline (a : AnnotationUse) : Outline.Tag TypeRef String :=
  ⟨a.type, groupedMembers a.members⟩

def FieldDecl.outline (f : FieldDecl) : Outline.Variable TypeRef String :=
  ⟨f.name, f.type, f.annotations.map (·.outline)⟩

def Parameter.outline (p : Parameter) : Outline.Variable TypeRef String :=
  ⟨p.name, p.type, p.annotations.map (·.outline)⟩

def MethodDecl.outline (m : MethodDecl) : Outline.Method TypeRef String :=
  ⟨m.name, m.returnType, m.annotations.map (·.outline), m.parameters.map (·.outline)⟩

def Artifact.outline : Artifact → Outline TypeRef String
  | .ofClass c =>
    ⟨c.package, c.name, c.annotations.map (·.outline), .fields (c.fields.map (·.outline))⟩
  | .ofInterface i =>
    ⟨i.package, i.name, i.annotations.map (·.outline), .methods (i.methods.map (·.outline))⟩

theorem isEmpty_groupedMembers (ms : List Member) : (groupedMembers ms).isEmpty = ms.isEmpty := by
  cases ms with
  | nil => rfl
  | cons m rest => simp [groupedMembers, List.eraseDups_cons]

section Text

variable (s : ImportScope)

theorem AnnotationUse.text_outline (a : AnnotationUse) :
    (a.outline.map s.spelling id).text = a.text s := by
  have hgroups : (groupedMembers a.members).map (fun (n, vs) => (n, vs.map id)) =
      groupedMembers a.members := by simp
  unfold Outline.Tag.text Outline.Tag.map AnnotationUse.outline
    Outline.Tag.text.membersText AnnotationUse.text
  simp only [hgroups, isEmpty_groupedMembers]
  split
  · simp
  · unfold memberList Outline.Tag.text.memberList
    split <;> simp_all [String.append_assoc]

theorem annotationLines_outline (indent : String) (as : List AnnotationUse) :
    Outline.annotationLines indent (as.map fun a => a.outline.map s.spelling id) =
      annotationLines s indent as := by
  unfold Outline.annotationLines annotationLines
  rw [List.map_map]
  refine congrArg String.join (List.map_congr_left fun a _ => ?_)
  rw [Function.comp_apply, AnnotationUse.text_outline, String.append_assoc]

theorem FieldDecl.text_outline (f : FieldDecl) :
    (f.outline.map s.spelling id).fieldText = f.text s := by
  unfold Outline.Variable.fieldText Outline.Variable.map FieldDecl.outline FieldDecl.text
  simp only [List.map_map, Function.comp_def, annotationLines_outline, String.append_assoc]

private theorem intercalate_concat_two (xs : List String) (y z : String) :
    " ".intercalate (xs ++ [y, z]) = String.join (xs.map (· ++ " ")) ++ (y ++ (" " ++ z)) := by
  induction xs with
  | nil => simp [String.append_assoc]
  | cons x xs ih =>
    rw [List.cons_append, String.intercalate_cons_of_ne_nil (by simp), ih, List.map_cons,
      String.join_cons, String.append_assoc, String.append_assoc, String.append_assoc]

theorem Parameter.text_outline (p : Parameter) :
    (p.outline.map s.spelling id).parameterText = p.text s := by
  unfold Outline.Variable.parameterText Outline.Variable.map Parameter.outline Parameter.text
  rw [intercalate_concat_two]
  simp only [List.map_map, Function.comp_def, AnnotationUse.text_outline]

theorem MethodDecl.text_outline (m : MethodDecl) :
    (m.outline.map s.spelling id).text = m.text s := by
  unfold Outline.Method.text Outline.Method.map MethodDecl.outline MethodDecl.text
  simp only [List.map_map, Function.comp_def, annotationLines_outline, Parameter.text_outline,
    String.append_assoc]

/-- The source file of an artifact is the text of its outline, spelled in its scope. -/
theorem Artifact.render_eq (a : Artifact) :
    a.render = (a.outline.map a.scope.spelling id).text a.scope.imports := by
  unfold Artifact.render Outline.text
  cases a with
  | ofClass c =>
    simp only [Artifact.outline, Outline.map, Outline.Body.map, Outline.Body.text,
      Outline.Body.keyword, Artifact.bodyTexts, Artifact.annotations, Artifact.keyword,
      Artifact.package, Artifact.name, List.map_map, Function.comp_def, annotationLines_outline,
      FieldDecl.text_outline, String.append_assoc]
  | ofInterface i =>
    simp only [Artifact.outline, Outline.map, Outline.Body.map, Outline.Body.text,
      Outline.Body.keyword, Artifact.bodyTexts, Artifact.annotations, Artifact.keyword,
      Artifact.package, Artifact.name, List.map_map, Function.comp_def, annotationLines_outline,
      MethodDecl.text_outline, String.append_assoc]

end Text

theorem FieldDecl.types_outline (f : FieldDecl) : f.outline.types = f.references := by
  simp [Outline.Variable.types, FieldDecl.outline, FieldDecl.references, AnnotationUse.outline]

theorem Parameter.types_outline (p : Parameter) : p.outline.types = p.references := by
  simp [Outline.Variable.types, Parameter.outline, Parameter.references, AnnotationUse.outline]

theorem MethodDecl.types_outline (m : MethodDecl) : m.outline.types = m.references := by
  simp [Outline.Method.types, MethodDecl.outline, MethodDecl.references, AnnotationUse.outline,
    List.flatMap_map, Parameter.types_outline]

/-- The types of an outline are those that claim their names. -/
theorem Artifact.types_outline (a : Artifact) : a.outline.types = a.references := by
  cases a with
  | ofClass c =>
    simp [Artifact.outline, Outline.types, Outline.Body.types, Artifact.references,
      AnnotationUse.outline, List.flatMap_map, FieldDecl.types_outline]
  | ofInterface i =>
    simp [Artifact.outline, Outline.types, Outline.Body.types, Artifact.references,
      AnnotationUse.outline, List.flatMap_map, MethodDecl.types_outline]

end SchemaToJava.Java
