import SchemaToJava.Proofs.Java.AnnotationReader

/-!
Reading source files. What is read is the outline of the file, and the types it imports.
-/

namespace SchemaToJava.Java

namespace Reader

def field : Reader (Outline.Variable String Literal) := do
  let as ← many (annotationLine "  ")
  expect "  private "
  let type ← typeName
  expect " "
  let name ← word
  expect ";\n"
  return ⟨name, type, as⟩

def parameter : Reader (Outline.Variable String Literal) := do
  let as ← many (do
    let a ← tag
    expect " "
    return a)
  let type ← typeName
  expect " "
  return ⟨← word, type, as⟩

def method : Reader (Outline.Method String Literal) := do
  let as ← many (annotationLine "  ")
  expect "  "
  let type ← typeName
  expect " "
  let name ← word
  expect "("
  let ps ← separated ", " parameter
  expect ");\n"
  return ⟨name, type, as, ps⟩

def body (keyword : String) : Reader (Outline.Body String Literal) :=
  if keyword = "class" then do return .fields (← separated "\n" field)
  else if keyword = "interface" then do return .methods (← separated "\n" method)
  else failure

def importLine : Reader String := do
  expect "import "
  let name ← typeName
  expect ";\n"
  return name

def imports : Reader (List String) :=
  (do
    let first ← importLine
    let more ← many importLine
    expect "\n"
    return first :: more) <|> pure []

def file : Reader (List String × Outline String Literal) := do
  expect "package "
  let package ← typeName
  expect ";\n\n"
  let is ← imports
  let as ← many (annotationLine "")
  expect "public "
  let keyword ← word
  expect " "
  let name ← word
  expect " \x7b\n"
  let b ← body keyword
  expect "\x7d\n"
  return (is, ⟨package, name, as, b⟩)

end Reader

namespace Outline

structure Variable.Legible {ν : Type} (v : Variable String ν) : Prop where
  name : IsWord v.name
  type : IsQualified v.type
  annotations : ∀ a ∈ v.annotations, a.Legible

structure Method.Legible {ν : Type} (m : Method String ν) : Prop where
  name : IsWord m.name
  returnType : IsQualified m.returnType
  annotations : ∀ a ∈ m.annotations, a.Legible
  parameters : ∀ p ∈ m.parameters, p.Legible

def Body.Legible {ν : Type} : Body String ν → Prop
  | .fields fs => ∀ f ∈ fs, f.Legible
  | .methods ms => ∀ m ∈ ms, m.Legible

/-- All names are words, and all types are qualified names. -/
structure Legible {ν : Type} (o : Outline String ν) : Prop where
  package : IsQualified o.package
  name : IsWord o.name
  annotations : ∀ a ∈ o.annotations, a.Legible
  body : o.body.Legible

end Outline

theorem reads_field {v : Outline.Variable String Literal} (h : v.Legible) :
    Reads Reader.field (v.map id Literal.translated).fieldText v anything := by
  unfold Outline.Variable.fieldText
  refine (reads_annotationLines "  " h.annotations).bind ((Reads.expect "  private ").andThen
    ((reads_typeName h.type).andBreak ((Reads.expect " ").andThen ((reads_word h.name).andBreak
      ((Reads.expect ";\n").bind_pure fun _ => v) ⟨';', ['\n'], rfl, by decide⟩))
      (.append ⟨' ', [], rfl, by decide⟩ _))) ?_
  intro rest _
  rw [String.toList_append, List.append_assoc]
  exact ⟨'p', _, rfl, by decide⟩

theorem head_typeName {s : String} (h : IsQualified s) :
    ∃ c cs, s.toList = c :: cs ∧ isQualifiedPart c = true := by
  have hne : s.toList ≠ [] := by simpa using h.nonempty
  obtain ⟨c, cs, hs⟩ := List.exists_cons_of_ne_nil hne
  exact ⟨c, cs, hs, h.parts c (hs ▸ List.mem_cons_self)⟩

theorem ne_of_isQualifiedPart {c d : Char} (h : isQualifiedPart c = true)
    (hd : isQualifiedPart d = false) : c ≠ d := by
  rintro rfl
  rw [h] at hd
  cases hd

theorem reads_parameter {v : Outline.Variable String Literal} (h : v.Legible) :
    Reads Reader.parameter (v.map id Literal.translated).parameterText v
      (Stops isIdentifierPart) := by
  unfold Outline.Variable.parameterText
  obtain ⟨c, cs, htext, hc⟩ := head_typeName h.type
  have htag : ∀ a ∈ v.annotations, Reads (do
      let a ← Reader.tag
      Reader.expect " "
      return a) ((a.map id Literal.translated).text ++ " ") a anything := fun a ha =>
    (reads_tag (h.annotations a ha)).bind ((Reads.expect " ").bind_pure fun _ => a)
      fun rest _ => ⟨' ', rest, rfl, .inl rfl⟩
  have hannotations := Reads.many htag (fun _ _ _ => trivial) fun a _ hnil => by
    exact absurd (String.append_eq_empty_iff.mp hnil).2 (by decide)
  have hjoin : (v.map id Literal.translated).annotations.map (·.text ++ " ") =
      v.annotations.map fun a => (a.map id Literal.translated).text ++ " " := by
    simp [Outline.Variable.map]
  rw [hjoin]
  refine hannotations.bind ((reads_typeName h.type).andBreak ((Reads.expect " ").andThen
    ((reads_word h.name).bind_pure fun n => Outline.Variable.mk n v.type v.annotations))
    (.append ⟨' ', [], rfl, by decide⟩ _)) ?_
  intro rest _
  have hnone : Reader.tag (((v.map id Literal.translated).type ++ (" " ++ v.name)).toList ++
      rest) = none := by
    have hhead : (v.map id Literal.translated).type.toList = c :: cs := htext
    rw [String.toList_append, hhead]
    exact bind_eq_none (expect_eq_none_of_head rfl (ne_of_isQualifiedPart hc (by decide)) _) _
  exact ⟨trivial, bind_eq_none hnone _⟩

theorem parameter_eq_none (cs : List Char) : Reader.parameter (')' :: cs) = none := by
  have htag : Reader.tag (')' :: cs) = none :=
    bind_eq_none (expect_eq_none_of_head rfl (by decide) cs) _
  unfold Reader.parameter
  rw [bind_of_eq_some (many_of_none (bind_eq_none htag _))]
  rfl

theorem reads_method {m : Outline.Method String Literal} (h : m.Legible) :
    Reads Reader.method (m.map id Literal.translated).text m anything := by
  unfold Outline.Method.text
  obtain ⟨c, cs, htext, hc⟩ := head_typeName h.returnType
  have hparameters := Reads.separated ", " (by decide)
    (fun p hp => reads_parameter (h.parameters p hp)) fun rest => stops_cons (by decide) _
  have hjoin : (m.map id Literal.translated).parameters.map (·.parameterText) =
      m.parameters.map fun p => (p.map id Literal.translated).parameterText := by
    simp [Outline.Method.map]
  rw [hjoin]
  refine (reads_annotationLines "  " h.annotations).bind ((Reads.expect "  ").andThen
    ((reads_typeName h.returnType).andBreak ((Reads.expect " ").andThen
      ((reads_word h.name).andBreak ((Reads.expect "(").andThen
        (hparameters.bind ((Reads.expect ");\n").bind_pure fun _ => m) ?_))
        (.append ⟨'(', [], rfl, by decide⟩ _)))
      (.append ⟨' ', [], rfl, by decide⟩ _))) ?_
  · intro rest _
    exact ⟨stops_cons (by decide) _, rfl, parameter_eq_none _⟩
  · intro rest _
    have hhead : (m.map id Literal.translated).returnType.toList = c :: cs := htext
    rw [String.toList_append, String.toList_append, hhead, List.append_assoc, List.append_assoc]
    exact ⟨c, _, rfl, ne_of_isQualifiedPart hc (by decide)⟩

theorem annotationLines_closed (cs : List Char) :
    Reader.many (Reader.annotationLine "  ") ('\x7d' :: cs) = some ([], '\x7d' :: cs) :=
  many_of_none (bind_eq_none (expect_eq_none_of_head rfl (by decide) cs) _)

theorem field_eq_none (cs : List Char) : Reader.field ('\x7d' :: cs) = none := by
  unfold Reader.field
  rw [bind_of_eq_some (annotationLines_closed cs)]
  exact bind_eq_none (expect_eq_none_of_head rfl (by decide) cs) _

theorem method_eq_none (cs : List Char) : Reader.method ('\x7d' :: cs) = none := by
  unfold Reader.method
  rw [bind_of_eq_some (annotationLines_closed cs)]
  exact bind_eq_none (expect_eq_none_of_head rfl (by decide) cs) _

theorem reads_body {b : Outline.Body String Literal} (h : b.Legible) :
    Reads (Reader.body (b.map id Literal.translated).keyword) (b.map id Literal.translated).text b
      (fun rest => ∃ more, rest = '\x7d' :: more) := by
  cases b with
  | fields fs =>
    have hfields := Reads.separated "\n" (by decide) (fun f hf => reads_field (h f hf))
      fun _ => trivial
    have hjoin : (fs.map (·.map id Literal.translated)).map (·.fieldText) =
        fs.map fun f => (f.map id Literal.translated).fieldText := by
      rw [List.map_map]
      rfl
    rw [Outline.Body.map, Outline.Body.text, hjoin]
    refine (hfields.bind_pure fun fs => Outline.Body.fields fs).mono ?_
    rintro _ ⟨more, rfl⟩
    exact ⟨trivial, rfl, field_eq_none more⟩
  | methods ms =>
    have hmethods := Reads.separated "\n" (by decide) (fun m hm => reads_method (h m hm))
      fun _ => trivial
    have hjoin : (ms.map (·.map id Literal.translated)).map (·.text) =
        ms.map fun m => (m.map id Literal.translated).text := by
      rw [List.map_map]
      rfl
    rw [Outline.Body.map, Outline.Body.text, hjoin]
    refine (hmethods.bind_pure fun ms => Outline.Body.methods ms).mono ?_
    rintro _ ⟨more, rfl⟩
    exact ⟨trivial, rfl, method_eq_none more⟩

theorem reads_importLine {i : String} (h : IsQualified i) :
    Reads Reader.importLine ("import " ++ i ++ ";\n") i anything := by
  rw [String.append_assoc]
  exact (Reads.expect "import ").andThen ((reads_typeName h).andBreak
    ((Reads.expect ";\n").bind_pure fun _ => i) ⟨';', ['\n'], rfl, by decide⟩)

theorem importLine_eq_none {c : Char} (hc : c ≠ 'i') (cs : List Char) :
    Reader.importLine (c :: cs) = none :=
  bind_eq_none (expect_eq_none_of_head rfl hc cs) _

/-- The import lines end at the blank line, and what stands below is no import. -/
theorem reads_imports {is : List String} (h : ∀ i ∈ is, IsQualified i) :
    Reads Reader.imports (importLines is) is (fun rest => ∃ c cs, rest = c :: cs ∧ c ≠ 'i') := by
  unfold Reader.imports importLines
  cases is with
  | nil =>
    refine Reads.orElse_right (Reads.pure []) ?_
    rintro _ ⟨c, cs, rfl, hc⟩
    exact bind_eq_none (importLine_eq_none hc cs) _
  | cons i is =>
    have hmore := Reads.many (fun j hj => reads_importLine (h j (List.mem_cons_of_mem i hj)))
      (fun _ _ _ => trivial) fun j _ hnil => by
        exact absurd (String.append_eq_empty_iff.mp hnil).2 (by decide)
    have htext : ("import " ++ i ++ ";\n") ++ (String.join (is.map fun j => "import " ++ j ++ ";\n") ++
        "\n") = String.join ((i :: is).map fun j => "import " ++ j ++ ";\n") ++ "\n" := by
      simp only [List.map_cons, String.join_cons, String.append_assoc]
    rw [List.isEmpty_cons, if_neg (by decide), ← htext]
    refine Reads.orElse_left ((reads_importLine (h i List.mem_cons_self)).andThen
      (hmore.bind ((Reads.expect "\n").bind_pure fun _ => i :: is) ?_)) _
    intro rest _
    exact ⟨trivial, importLine_eq_none (by decide) rest⟩

theorem isWord_keyword (b : Outline.Body String String) : IsWord b.keyword := by
  unfold Outline.Body.keyword
  split
  · exact isWord_of_all (by decide)
  · exact isWord_of_all (by decide)

theorem reads_file {is : List String} (his : ∀ i ∈ is, IsQualified i)
    {o : Outline String Literal} (h : o.Legible) :
    Reads Reader.file ((o.map id Literal.translated).text is) (is, o) anything := by
  unfold Outline.text
  refine (Reads.expect "package ").andThen ((reads_typeName h.package).andBreak
    ((Reads.expect ";\n\n").andThen ((reads_imports his).bind
      ((reads_annotationLines "" h.annotations).bind ((Reads.expect "public ").andThen
        ((reads_word (isWord_keyword _)).andBreak ((Reads.expect " ").andThen
          ((reads_word h.name).andBreak ((Reads.expect " \x7b\n").andThen
            ((reads_body h.body).bind ((Reads.expect "\x7d\n").bind_pure fun _ => (is, o)) ?_))
            (.append ⟨' ', ['\x7b', '\n'], rfl, by decide⟩ _)))
          (.append ⟨' ', [], rfl, by decide⟩ _))) ?_) ?_))
    (.append ⟨';', ['\n', '\n'], rfl, by decide⟩ _))
  · intro rest _
    exact ⟨_, rfl⟩
  · intro rest _
    rw [String.toList_append, List.append_assoc]
    exact ⟨'p', _, rfl, by decide⟩
  · intro rest _
    unfold Outline.annotationLines
    cases (o.map id Literal.translated).annotations with
    | nil =>
      rw [List.map_nil, String.join_nil, String.empty_append, String.toList_append,
        List.append_assoc]
      exact ⟨'p', _, rfl, by decide⟩
    | cons a as =>
      rw [List.map_cons, String.join_cons, String.empty_append, Outline.Tag.text]
      simp only [String.toList_append, List.append_assoc]
      exact ⟨'@', _, rfl, by decide⟩

end SchemaToJava.Java
