import SchemaToJava.Proofs.Java.LiteralReader
import SchemaToJava.Proofs.Java.Outline

/-!
Reading annotations. The reader follows the layout of source files and answers what stands in one,
with types as they are spelled there.
-/

namespace SchemaToJava.Java

def isQualifiedPart (c : Char) : Bool := isIdentifierPart c || c = '.'

namespace Reader

def word : Reader String := takeWhile isIdentifierPart

def typeName : Reader String := takeWhile isQualifiedPart

def memberValues : Reader (List Literal) :=
  (do
    expect "\x7b"
    let vs ← separated ", " literal
    expect "\x7d"
    return vs) <|> (do return [← literal])

def member : Reader (String × List Literal) := do
  let name ← word
  expect " = "
  return (name, ← memberValues)

/-- Takes members in parentheses, or none. A value without a name is the member `value`. -/
def members : Reader (List (String × List Literal)) :=
  (do
    expect "("
    let ms ← someSeparated ", " member <|> (do return [("value", ← memberValues)])
    expect ")"
    return ms) <|> pure []

def tag : Reader (Outline.Tag String Literal) := do
  expect "@"
  let type ← typeName
  return ⟨type, ← members⟩

def annotationLine (indent : String) : Reader (Outline.Tag String Literal) := do
  expect indent
  let a ← tag
  expect "\n"
  return a

end Reader

structure IsWord (s : String) : Prop where
  nonempty : s ≠ ""
  parts : ∀ c ∈ s.toList, isIdentifierPart c = true

structure IsQualified (s : String) : Prop where
  nonempty : s ≠ ""
  parts : ∀ c ∈ s.toList, isQualifiedPart c = true

theorem IsWord.not_mem {s : String} (h : IsWord s) {c : Char} (hc : isIdentifierPart c = false) :
    c ∉ s.toList := by
  intro hmem
  rw [h.parts c hmem] at hc
  cases hc

theorem isWord_of_all {s : String} (h : s.toList.all isIdentifierPart = true)
    (hne : s ≠ "" := by decide) : IsWord s :=
  ⟨hne, List.all_eq_true.mp h⟩

theorem isQualified_of_all {s : String} (h : s.toList.all isQualifiedPart = true)
    (hne : s ≠ "" := by decide) : IsQualified s :=
  ⟨hne, List.all_eq_true.mp h⟩

namespace Outline

structure Tag.Legible {ν : Type} (a : Tag String ν) : Prop where
  type : IsQualified a.type
  members : ∀ m ∈ a.members, IsWord m.1

end Outline

theorem isQualifiedPart_of_part {c : Char} (h : isIdentifierPart c = true) :
    isQualifiedPart c = true := by
  simp [isQualifiedPart, h]

theorem reads_word {s : String} (h : IsWord s) :
    Reads Reader.word s s (Stops isIdentifierPart) :=
  Reads.takeWhile h.nonempty h.parts

theorem reads_typeName {s : String} (h : IsQualified s) :
    Reads Reader.typeName s s (Stops isQualifiedPart) :=
  Reads.takeWhile h.nonempty h.parts

theorem word_eq_none {cs : List Char} (h : Stops isIdentifierPart cs) :
    Reader.word cs = none := by
  unfold Reader.word Reader.takeWhile
  have hnil : cs.takeWhile isIdentifierPart = [] := by
    cases cs with
    | nil => rfl
    | cons c cs => simp [h c rfl]
  rw [hnil]
  rfl

theorem ne_singleton_of_map {α β : Type} {f : α → β} {xs : List α} (h : ¬ ∃ x, xs = [x]) (y : β) :
    xs.map f ≠ [y] := by
  intro hy
  obtain ⟨x, hx, -⟩ := List.map_eq_singleton_iff.mp hy
  exact h ⟨x, hx⟩

theorem memberValue_eq {vs : List String} (h : ∀ v, vs ≠ [v]) :
    memberValue vs = "\x7b" ++ (", ".intercalate vs ++ "\x7d") := by
  unfold memberValue
  split
  · exact absurd rfl (h _)
  · rw [String.append_assoc]

theorem reads_memberValues (vs : List Literal) :
    Reads Reader.memberValues (memberValue (vs.map (·.translated))) vs
      (Stops isIdentifierPart) := by
  unfold Reader.memberValues
  by_cases hone : ∃ v, vs = [v]
  · obtain ⟨v, rfl⟩ := hone
    refine Reads.orElse_right ((reads_literal v).bind_pure fun v => [v]) ?_
    intro rest _
    obtain ⟨c, cs, htext, hc⟩ := v.head_translated
    have hbrace : c ≠ '\x7b' := by
      rintro rfl
      revert hc
      decide
    have hvalue : memberValue ([v].map (·.translated)) = v.translated := rfl
    rw [hvalue, htext]
    exact bind_eq_none (expect_eq_none_of_head rfl hbrace _) _
  · rw [memberValue_eq (ne_singleton_of_map hone)]
    refine Reads.orElse_left ?_ _
    have hitems := Reads.separated ", " (by decide) (fun v (_ : v ∈ vs) => reads_literal v)
      fun rest => stops_cons (by decide) _
    refine (Reads.expect _).andThen (hitems.bind ((Reads.expect _).bind_pure fun _ => vs) ?_)
    exact fun rest _ => ⟨stops_cons (by decide) _, rfl, rfl⟩

theorem reads_member {m : String × List Literal} (h : IsWord m.1) :
    Reads Reader.member (m.1 ++ (" = " ++ memberValue (m.2.map (·.translated)))) m
      (Stops isIdentifierPart) := by
  have hvalues := (reads_memberValues m.2).bind_pure fun vs => (m.1, vs)
  exact (reads_word h).andBreak ((Reads.expect " = ").andThen hvalues)
    (Breaks.append ⟨' ', _, rfl, by decide⟩ _)

theorem member_eq_none_of_break {cs : List Char} (h : Stops isIdentifierPart cs) :
    Reader.member cs = none :=
  bind_eq_none (word_eq_none h) _

theorem member_eq_none_of_word {s : String} (h : IsWord s) (rest : List Char) :
    Reader.member (s.toList ++ ')' :: rest) = none := by
  unfold Reader.member
  change (Reader.word _).bind _ = none
  rw [reads_word h _ (stops_cons (by decide) rest)]
  rfl

theorem isWord_of_not_neg {n : Int} (h : ¬ n < 0) : IsWord (toString n) := by
  have htext : (toString n).toList = Nat.toDigits 10 n.natAbs := by
    rw [toList_toString_int, if_neg h, List.nil_append]
  constructor
  · intro hnil
    rw [hnil] at htext
    exact Nat.toDigits_ne_nil htext.symm
  · intro c hc
    rw [htext] at hc
    have hdigit := Nat.isDigit_of_mem_toDigits (by decide) (by decide) hc
    by_contra hpart
    rw [not_isDigit_of_not_isIdentifierPart (Bool.eq_false_iff.mpr hpart)] at hdigit
    cases hdigit

/-- The value of a member is no member with a name. -/
theorem member_eq_none (vs : List Literal) (rest : List Char) :
    Reader.member ((memberValue (vs.map (·.translated))).toList ++ ')' :: rest) = none := by
  by_cases hone : ∃ v, vs = [v]
  · obtain ⟨v, rfl⟩ := hone
    have hvalue : memberValue ([v].map (·.translated)) = v.translated := rfl
    rw [hvalue]
    cases v with
    | string s =>
      refine member_eq_none_of_break ?_
      rw [Literal.translated, String.toList_ofList]
      exact stops_cons (by decide) _
    | int n =>
      by_cases hn : n < 0
      · refine member_eq_none_of_break ?_
        rw [Literal.translated, toList_toString_int, if_pos hn]
        exact stops_cons (by decide) _
      · exact member_eq_none_of_word (isWord_of_not_neg hn) rest
    | boolean b =>
      cases b with
      | true => exact member_eq_none_of_word (isWord_of_all (by decide)) rest
      | false => exact member_eq_none_of_word (isWord_of_all (by decide)) rest
  · refine member_eq_none_of_break ?_
    rw [memberValue_eq (ne_singleton_of_map hone), String.toList_append]
    exact stops_cons (by decide) _

theorem memberList_eq {ms : List (String × List String)} (h : ∀ vs, ms ≠ [("value", vs)]) :
    Outline.Tag.text.memberList ms =
      ", ".intercalate (ms.map fun m => m.1 ++ (" = " ++ memberValue m.2)) := by
  unfold Outline.Tag.text.memberList
  split
  · exact absurd rfl (h _)
  · rfl

theorem memberList_map_eq {α : Type} {ms : List (String × List α)}
    (h : ¬ ∃ vs, ms = [("value", vs)]) (f : α → String) :
    Outline.Tag.text.memberList (ms.map fun m => (m.1, m.2.map f)) =
      ", ".intercalate (ms.map fun m => m.1 ++ (" = " ++ memberValue (m.2.map f))) := by
  rw [memberList_eq, List.map_map]
  · rfl
  · intro vs hvs
    obtain ⟨⟨n, ws⟩, rfl, hm⟩ := List.map_eq_singleton_iff.mp hvs
    obtain rfl : n = "value" := congrArg Prod.fst hm
    exact h ⟨ws, rfl⟩

theorem reads_memberList {ms : List (String × List Literal)} (hne : ms ≠ [])
    (h : ∀ m ∈ ms, IsWord m.1) :
    Reads (Reader.someSeparated ", " Reader.member <|>
        (do return [("value", ← Reader.memberValues)]))
      (Outline.Tag.text.memberList (ms.map fun m => (m.1, m.2.map (·.translated)))) ms
      (fun rest => ∃ more, rest = ')' :: more) := by
  by_cases hvalue : ∃ vs, ms = [("value", vs)]
  · -- Members with names are tried first, and a value alone is none.
    obtain ⟨vs, rfl⟩ := hvalue
    refine Reads.orElse_right (((reads_memberValues vs).bind_pure fun vs => [("value", vs)]).mono
      ?_) ?_
    · rintro _ ⟨more, rfl⟩
      exact stops_cons (by decide) _
    · rintro _ ⟨more, rfl⟩
      exact bind_eq_none (member_eq_none vs more) _
  · rw [memberList_map_eq hvalue]
    have hitems := Reads.someSeparated ", " hne (by decide)
      (fun m hm => reads_member (h m hm)) fun rest => stops_cons (by decide) _
    refine Reads.orElse_left (hitems.mono ?_) _
    rintro _ ⟨more, rfl⟩
    exact ⟨stops_cons (by decide) _, rfl⟩

theorem reads_members {ms : List (String × List Literal)} (h : ∀ m ∈ ms, IsWord m.1) :
    Reads Reader.members
      (Outline.Tag.text.membersText (ms.map fun m => (m.1, m.2.map (·.translated)))) ms
      (fun rest => rest.head? ≠ some '(') := by
  unfold Reader.members Outline.Tag.text.membersText
  by_cases hnil : ms = []
  · subst hnil
    refine Reads.orElse_right (Reads.pure []) ?_
    intro rest hrest
    refine bind_eq_none ?_ _
    cases rest with
    | nil => rfl
    | cons c cs =>
      have hc : c ≠ '(' := by simpa using hrest
      exact expect_eq_none_of_head rfl hc _
  · rw [if_neg (by simpa using hnil)]
    refine Reads.orElse_left ((Reads.expect "(").andThen ((reads_memberList hnil h).bind
      ((Reads.expect ")").bind_pure fun _ => ms) ?_)) _
    exact fun rest _ => ⟨rest, rfl⟩

/-- What may follow an annotation. -/
def EndsAnnotation (rest : List Char) : Prop := ∃ c cs, rest = c :: cs ∧ (c = ' ' ∨ c = '\n')

theorem EndsAnnotation.stops {rest : List Char} (h : EndsAnnotation rest) :
    Stops isQualifiedPart rest ∧ rest.head? ≠ some '(' := by
  obtain ⟨c, cs, rfl, rfl | rfl⟩ := h
  · exact ⟨stops_cons (by decide) _, by simp⟩
  · exact ⟨stops_cons (by decide) _, by simp⟩

theorem reads_tag {a : Outline.Tag String Literal} (h : a.Legible) :
    Reads Reader.tag (a.map id Literal.translated).text a EndsAnnotation := by
  have hmembers := (reads_members h.members).bind_pure fun ms => Outline.Tag.mk a.type ms
  unfold Outline.Tag.text
  refine (Reads.expect "@").andThen ((reads_typeName h.type).bind (hmembers.mono ?_) ?_)
  · exact fun rest hrest => hrest.stops.2
  · intro rest hrest
    unfold Outline.Tag.text.membersText
    split
    · exact hrest.stops.1
    · exact (Breaks.append ⟨'(', [], rfl, by decide⟩ _).stops rest

theorem reads_annotationLine (indent : String) {a : Outline.Tag String Literal}
    (h : a.Legible) : Reads (Reader.annotationLine indent)
      (indent ++ ((a.map id Literal.translated).text ++ "\n")) a anything := by
  refine (Reads.expect indent).andThen ((reads_tag h).bind
    ((Reads.expect "\n").bind_pure fun _ => a) ?_)
  exact fun rest _ => ⟨'\n', rest, rfl, .inr rfl⟩

theorem annotationLine_eq_none (indent : String) {c : Char} (hc : c ≠ '@') (cs : List Char) :
    Reader.annotationLine indent (indent.toList ++ c :: cs) = none := by
  unfold Reader.annotationLine
  change (Reader.expect indent _).bind _ = none
  rw [(Reads.expect indent : Reads _ _ _ anything) _ trivial]
  exact bind_eq_none (bind_eq_none (expect_eq_none_of_head rfl hc cs) _) _

theorem reads_annotationLines (indent : String) {as : List (Outline.Tag String Literal)}
    (h : ∀ a ∈ as, a.Legible) : Reads (Reader.many (Reader.annotationLine indent))
      (Outline.annotationLines indent (as.map (·.map id Literal.translated))) as
      (fun rest => ∃ c cs, rest = indent.toList ++ c :: cs ∧ c ≠ '@') := by
  unfold Outline.annotationLines
  rw [List.map_map]
  have hlines := Reads.many (fun a ha => reads_annotationLine indent (h a ha))
    (fun _ _ _ => trivial) fun a _ hnil => by
      have hline := (String.append_eq_empty_iff.mp (String.append_eq_empty_iff.mp hnil).2).2
      exact absurd hline (by decide)
  refine hlines.mono ?_
  rintro _ ⟨c, cs, rfl, hc⟩
  exact ⟨trivial, annotationLine_eq_none indent hc cs⟩

end SchemaToJava.Java
