import Mathlib.Algebra.Ring.Parity
import Mathlib.Data.List.DropRight
import SchemaToJava.Proofs.Java.LiteralReader

/-!
String literals as tokens. The text of a literal is one line, both of Java's passes together make one
token with the right value of it, and the only Unicode escapes in it are those of control characters.
-/

namespace SchemaToJava.Java

theorem exists_of_mem_hexDigits {w n : Nat} {d : Char} (h : d ∈ Text.hexDigits w n) :
    ∃ m < 16, d = Text.hexDigit m := by
  induction w generalizing n with
  | zero => cases h
  | succ w ih =>
    rw [Text.hexDigits, List.mem_append, List.mem_singleton] at h
    rcases h with h | h
    · exact ih h
    · exact ⟨n % 16, Nat.mod_lt n (by decide), h⟩

theorem hexDigits_ne {w n : Nat} {d : Char} (h : d ∈ Text.hexDigits w n) :
    d ≠ '\\' ∧ d ≠ '\n' ∧ d ≠ '\r' := by
  have hdigit : ∀ m < 16, Text.hexDigit m ≠ '\\' ∧ Text.hexDigit m ≠ '\n' ∧
      Text.hexDigit m ≠ '\r' := by
    decide
  obtain ⟨m, hm, rfl⟩ := exists_of_mem_hexDigits h
  exact hdigit m hm

theorem stringChar_cases (c : Char) :
    (∃ e, escapeLetter? c = some e ∧ stringChar c = ['\\', e]) ∨
    (escapeLetter? c = none ∧ isControl c = true ∧
      stringChar c = '\\' :: 'u' :: Text.hexDigits 4 c.toNat) ∨
    (escapeLetter? c = none ∧ isControl c = false ∧ stringChar c = [c]) := by
  unfold stringChar
  cases he : escapeLetter? c with
  | some e => exact .inl ⟨e, rfl, rfl⟩
  | none =>
    cases hc : isControl c with
    | true => exact .inr (.inl ⟨rfl, rfl, rfl⟩)
    | false => exact .inr (.inr ⟨rfl, rfl, rfl⟩)

theorem ne_of_escapeLetter?_eq_none {c : Char} (h : escapeLetter? c = none) :
    c ≠ '\\' ∧ c ≠ '\x22' ∧ c ≠ '\n' ∧ c ≠ '\r' := by
  refine ⟨?_, ?_, ?_, ?_⟩ <;> rintro rfl <;> cases h

theorem escapeLetter?_ne_lineEnd {c e : Char} (h : escapeLetter? c = some e) :
    e ≠ '\n' ∧ e ≠ '\r' := by
  refine ⟨?_, ?_⟩ <;> rintro rfl <;> unfold escapeLetter? at h <;> split_ifs at h <;> cases h

theorem stringChar_ne_lineEnd {c d : Char} (h : d ∈ stringChar c) : d ≠ '\n' ∧ d ≠ '\r' := by
  rcases stringChar_cases c with ⟨e, he, htext⟩ | ⟨-, -, htext⟩ | ⟨he, -, htext⟩
  · rw [htext, List.mem_cons, List.mem_singleton] at h
    rcases h with rfl | rfl
    · decide
    · exact escapeLetter?_ne_lineEnd he
  · rw [htext, List.mem_cons, List.mem_cons] at h
    rcases h with rfl | rfl | h
    · decide
    · decide
    · exact (hexDigits_ne h).2
  · rw [htext, List.mem_singleton] at h
    exact h ▸ (ne_of_escapeLetter?_eq_none he).2.2

theorem translatedChar_ne_lineEnd {c d : Char} (h : d ∈ translatedChar c) :
    d ≠ '\n' ∧ d ≠ '\r' := by
  unfold translatedChar at h
  cases he : escapeLetter? c with
  | some e =>
    simp only [he, List.mem_cons, List.not_mem_nil, or_false] at h
    rcases h with rfl | rfl
    · decide
    · exact escapeLetter?_ne_lineEnd he
  | none =>
    simp only [he, List.mem_singleton] at h
    exact h ▸ (ne_of_escapeLetter?_eq_none he).2.2

/-- A backslash between the two texts begins a Unicode escape: a `u` follows it, and the number of
backslashes right in front of it is even. -/
structure BeginsEscape (before after : List Char) : Prop where
  even : Even (before.rtakeWhile (· == '\\')).length
  mark : after.head? = some 'u'

/-- What a backslash between the two texts begins in the literal for `s` is the Unicode escape of
one of its control characters. -/
def EscapesControl (s : String) (before after : List Char) : Prop :=
  ∃ cs c ds, s.toList = cs ++ c :: ds ∧ isControl c = true ∧ escapeLetter? c = none ∧
    before = '\x22' :: cs.flatMap stringChar ∧
    after = 'u' :: Text.hexDigits 4 c.toNat ++ ds.flatMap stringChar ++ ['\x22']

theorem exists_of_flatMap_eq {α β : Type} {f : α → List β} {xs : List α} {before after : List β}
    {y : β} (h : xs.flatMap f = before ++ y :: after) :
    ∃ as a bs u v, xs = as ++ a :: bs ∧ f a = u ++ y :: v ∧ before = as.flatMap f ++ u ∧
      after = v ++ bs.flatMap f := by
  induction xs generalizing before with
  | nil => simp at h
  | cons x xs ih =>
    have hlater : ∀ w, xs.flatMap f = w ++ y :: after → before = f x ++ w →
        ∃ as a bs u v, x :: xs = as ++ a :: bs ∧ f a = u ++ y :: v ∧
          before = as.flatMap f ++ u ∧ after = v ++ bs.flatMap f := by
      rintro w hw rfl
      obtain ⟨as, a, bs, u, v, rfl, ha, rfl, rfl⟩ := ih hw
      exact ⟨x :: as, a, bs, u, v, rfl, ha, by simp, rfl⟩
    rw [List.flatMap_cons, List.append_eq_append_iff] at h
    rcases h with ⟨w, hbefore, hw⟩ | ⟨w, hx, hw⟩
    · exact hlater w hw hbefore
    · cases w with
      | nil => exact hlater [] hw.symm (by simpa using hx.symm)
      | cons z w =>
        obtain ⟨rfl, rfl⟩ := List.cons.inj hw
        exact ⟨[], x, xs, before, w, rfl, hx, rfl, rfl⟩

theorem even_trailing (cs : List Char) :
    Even (('\x22' :: cs.flatMap stringChar).rtakeWhile (· == '\\')).length := by
  induction cs using List.reverseRecOn with
  | nil => decide
  | append_singleton cs c ih =>
    have hnone : ∀ w d, d ≠ '\\' → ((w ++ [d]).rtakeWhile (· == '\\')).length = 0 := by
      intro w d hd
      rw [List.rtakeWhile_concat_neg _ _ _ (by simpa using hd), List.length_nil]
    rw [List.flatMap_append, List.flatMap_singleton, ← List.cons_append]
    rcases stringChar_cases c with ⟨e, -, htext⟩ | ⟨-, -, htext⟩ | ⟨he, -, htext⟩
    · rw [htext, List.append_cons]
      by_cases he : e = '\\'
      · rw [he, List.rtakeWhile_concat_pos _ _ _ (by decide),
          List.rtakeWhile_concat_pos _ _ _ (by decide), List.length_append, List.length_append]
        exact Odd.add_one (Even.add_one ih)
      · rw [hnone _ _ he]
        exact Even.zero
    · rw [htext, Text.hexDigits, ← List.cons_append, ← List.cons_append, ← List.append_assoc, hnone]
      · exact Even.zero
      · exact (hexDigits_ne (w := 4) (n := c.toNat) (List.mem_append_right _ (by simp))).1
    · rw [htext, hnone _ _ (ne_of_escapeLetter?_eq_none he).1]
      exact Even.zero

/-- Where one character is written, a Unicode escape can only begin if the character is a control
character, and then it is all that is written. -/
theorem control_of_beginsEscape {c : Char} {w u v rest : List Char}
    (hw : Even (w.rtakeWhile (· == '\\')).length) (hc : stringChar c = u ++ '\\' :: v)
    (h : BeginsEscape (w ++ u) (v ++ rest)) :
    u = [] ∧ isControl c = true ∧ escapeLetter? c = none ∧
      v = 'u' :: Text.hexDigits 4 c.toNat := by
  rcases stringChar_cases c with ⟨e, he, htext⟩ | ⟨he, hcontrol, htext⟩ | ⟨he, -, htext⟩
  · rw [htext, List.cons_eq_append_iff] at hc
    rcases hc with ⟨-, hv⟩ | ⟨u', rfl, hu⟩
    · cases hv
      exact absurd (Option.some.inj h.mark) (escapeLetter?_ne he)
    · obtain ⟨rfl, -⟩ | ⟨_, -, hu⟩ := List.cons_eq_append_iff.mp hu
      · -- the second backslash of a pair, so an odd number stands in front of it
        have hodd := h.even
        rw [List.rtakeWhile_concat_pos _ _ _ (by decide), List.length_append] at hodd
        exact absurd hw (Nat.even_add_one.mp hodd)
      · simp at hu
  · rw [htext, List.cons_eq_append_iff] at hc
    rcases hc with ⟨rfl, hv⟩ | ⟨u', rfl, hu⟩
    · cases hv
      exact ⟨rfl, hcontrol, he, rfl⟩
    · have hmem : '\\' ∈ 'u' :: Text.hexDigits 4 c.toNat := hu ▸ by simp
      rcases List.mem_cons.mp hmem with h | h
      · exact absurd h (by decide)
      · exact absurd rfl (hexDigits_ne h).1
  · rw [htext, List.cons_eq_append_iff] at hc
    rcases hc with ⟨-, hv⟩ | ⟨u', -, hu⟩
    · cases hv
      exact absurd rfl (ne_of_escapeLetter?_eq_none he).1
    · simp at hu

theorem escapesControl_of_beginsEscape {s : String} {before after : List Char}
    (htext : (stringLiteral s).toList = before ++ '\\' :: after)
    (h : BeginsEscape before after) : EscapesControl s before after := by
  rw [toList_stringLiteral, List.cons_append, List.cons_eq_append_iff] at htext
  obtain ⟨-, hquote⟩ | ⟨w, rfl, htext⟩ := htext
  · cases hquote
  rw [List.append_eq_append_iff] at htext
  obtain ⟨w', -, hquote⟩ | ⟨w', hbody, hafter⟩ := htext
  · have hmem : '\\' ∈ ['\x22'] := hquote ▸ by simp
    exact absurd hmem (by decide)
  obtain ⟨-, hquote⟩ | ⟨w'', rfl, rfl⟩ := List.cons_eq_append_iff.mp hafter
  · cases hquote
  obtain ⟨cs, c, ds, u, v, hs, hc, rfl, rfl⟩ := exists_of_flatMap_eq hbody
  rw [← List.cons_append, List.append_assoc] at h
  obtain ⟨rfl, hcontrol, he, rfl⟩ := control_of_beginsEscape (even_trailing cs) hc h
  exact ⟨cs, c, ds, hs, hcontrol, he, by simp, rfl⟩

/-- The text is one line, and both passes take all of it for one string literal of the given value.
The first pass leaves no line end, nor three quotes in front, with which a text block would begin. -/
structure IsStringToken (text : List Char) (value : String) : Prop where
  line : ∀ c ∈ text, c ≠ '\n' ∧ c ≠ '\r'
  token : ∃ t, translate true 0 text = some t ∧ (∀ c ∈ t, c ≠ '\n' ∧ c ≠ '\r') ∧
    ¬ ['\x22', '\x22', '\x22'] <+: t ∧ Reader.string t = some (.string value, [])

theorem ne_lineEnd_of_quoted {f : Char → List Char} {cs : List Char}
    (hf : ∀ c, ∀ d ∈ f c, d ≠ '\n' ∧ d ≠ '\r') :
    ∀ d ∈ '\x22' :: cs.flatMap f ++ ['\x22'], d ≠ '\n' ∧ d ≠ '\r' := by
  have hquote : '\x22' ≠ '\n' ∧ '\x22' ≠ '\r' := by decide
  rw [List.forall_mem_append, List.forall_mem_cons, List.forall_mem_singleton]
  refine ⟨⟨hquote, fun d hd => ?_⟩, hquote⟩
  obtain ⟨c, -, hc⟩ := List.mem_flatMap.mp hd
  exact hf c d hc

/-- No text block begins where a string literal is meant, not even where the literal is empty. -/
theorem not_textBlock (cs : List Char) :
    ¬ ['\x22', '\x22', '\x22'] <+: '\x22' :: cs.flatMap translatedChar ++ ['\x22'] := by
  rw [List.cons_append, List.cons_prefix_cons]
  rintro ⟨-, h⟩
  cases cs with
  | nil => exact absurd h (by decide)
  | cons c cs =>
    rw [List.flatMap_cons, translatedChar] at h
    cases he : escapeLetter? c with
    | some e =>
      simp only [he, List.cons_append, List.cons_prefix_cons] at h
      exact absurd h.1 (by decide)
    | none =>
      simp only [he, List.cons_append, List.cons_prefix_cons] at h
      exact (ne_of_escapeLetter?_eq_none he).2.1 h.1.symm

theorem isStringToken_stringLiteral (s : String) : IsStringToken (stringLiteral s).toList s := by
  have htext : (Literal.string s).translated.toList =
      '\x22' :: s.toList.flatMap translatedChar ++ ['\x22'] := String.toList_ofList
  have hreads := reads_string s [] trivial
  rw [List.append_nil] at hreads
  refine ⟨?_, _, (Literal.string s).translate_text, ?_, ?_, hreads⟩
  · rw [toList_stringLiteral]
    exact ne_lineEnd_of_quoted fun c d => stringChar_ne_lineEnd
  · rw [htext]
    exact ne_lineEnd_of_quoted fun c d => translatedChar_ne_lineEnd
  · rw [htext]
    exact not_textBlock s.toList

/-- A string literal is one token with the value that was written, on one line; and no backslash in
it begins a Unicode escape by accident. -/
theorem lexes_stringLiteral (s : String) :
    IsStringToken (stringLiteral s).toList s ∧
      ∀ before after, (stringLiteral s).toList = before ++ '\\' :: after →
        BeginsEscape before after → EscapesControl s before after :=
  ⟨isStringToken_stringLiteral s, fun _ _ => escapesControl_of_beginsEscape⟩

end SchemaToJava.Java
