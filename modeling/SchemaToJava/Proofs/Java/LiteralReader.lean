import SchemaToJava.GraphQL.Lexer
import SchemaToJava.Java.Literal
import SchemaToJava.Proofs.Java.Reader

/-!
Java's reading of literals. A source text is read in two passes: Unicode escapes are replaced
everywhere first, and only then is it taken apart, with the escape sequences of string literals.
-/

namespace SchemaToJava.Java

/-- The character of a Unicode escape without its backslash, and the length of that. There may be
any number of `u`; halves of surrogate pairs are refused. -/
def unicodeEscape? (cs : List Char) : Option (Char × Nat) :=
  let marks := (cs.takeWhile (· == 'u')).length
  let digits := (cs.drop marks).take 4
  match GraphQL.hexNumber? digits with
  | some n =>
    if 0 < marks && digits.length == 4 && GraphQL.isScalarValue n then
      some (Char.ofNat n, marks + 4)
    else none
  | none => none

/-- Replaces Unicode escapes. A backslash starts one only after an even number of backslashes, which
`even` tells; the next `skip` characters belong to an escape already read. -/
def translate (even : Bool) (skip : Nat) : List Char → Option (List Char)
  | [] => some []
  | c :: rest =>
    match skip with
    | k + 1 => translate even k rest
    | 0 =>
      if c = '\\' && even && rest.head? = some 'u' then
        match unicodeEscape? rest with
        | some (d, size) => (translate true size rest).map (d :: ·)
        | none => none
      else (translate (!(c = '\\' && even)) 0 rest).map (c :: ·)

/-- The first pass makes `t` of the text `s`, whatever comes after. -/
def Translates (s t : List Char) : Prop :=
  ∀ rest, translate true 0 (s ++ rest) = (translate true 0 rest).map (t ++ ·)

namespace Translates

variable {s s' t t' : List Char}

theorem nil : Translates [] [] := by
  intro rest
  simp

theorem append (h : Translates s t) (h' : Translates s' t') : Translates (s ++ s') (t ++ t') := by
  intro rest
  rw [List.append_assoc, h, h', Option.map_map]
  simp only [Function.comp_def, List.append_assoc]

theorem singleton {c : Char} (h : c ≠ '\\') : Translates [c] [c] := by
  intro rest
  simp [translate, h]

theorem of_not_mem (h : '\\' ∉ s) : Translates s s := by
  induction s with
  | nil => exact nil
  | cons c cs ih =>
    rw [List.mem_cons, not_or] at h
    exact (singleton (Ne.symm h.1)).append (ih h.2)

theorem flatMap {α : Type} {f g : α → List Char} (xs : List α)
    (h : ∀ x ∈ xs, Translates (f x) (g x)) : Translates (xs.flatMap f) (xs.flatMap g) := by
  induction xs with
  | nil => exact nil
  | cons x xs ih =>
    rw [List.flatMap_cons, List.flatMap_cons]
    exact (h x (by simp)).append (ih fun y hy => h y (List.mem_cons_of_mem _ hy))

theorem escape {c : Char} (h : c ≠ 'u') : Translates ['\\', c] ['\\', c] := by
  intro rest
  by_cases hc : c = '\\'
  · simp [translate, hc, Function.comp_def]
  · simp [translate, hc, h, Function.comp_def]

theorem skip_eq (even : Bool) (s rest : List Char) :
    translate even s.length (s ++ rest) = translate even 0 rest := by
  induction s with
  | nil => rfl
  | cons c cs ih => exact ih

theorem unicodeEscape?_eq {digits : List Char} {n : Nat} (hlength : digits.length = 4)
    (hmark : digits.head? ≠ some 'u') (hn : GraphQL.hexNumber? digits = some n)
    (hscalar : GraphQL.isScalarValue n = true) (rest : List Char) :
    unicodeEscape? ('u' :: (digits ++ rest)) = some (Char.ofNat n, 5) := by
  have hmarks : (('u' :: (digits ++ rest)).takeWhile (· == 'u')).length = 1 := by
    obtain ⟨d, ds, rfl⟩ := List.exists_cons_of_length_eq_add_one hlength
    have hd : d ≠ 'u' := by simpa using hmark
    simp [hd]
  have htake : (digits ++ rest).take 4 = digits := by
    rw [← hlength, List.take_left]
  unfold unicodeEscape?
  rw [hmarks]
  simp only [List.drop_succ_cons, List.drop_zero, htake, hn, hlength, hscalar]
  rfl

theorem unicode {digits : List Char} {n : Nat} (hlength : digits.length = 4)
    (hmark : digits.head? ≠ some 'u') (hn : GraphQL.hexNumber? digits = some n)
    (hscalar : GraphQL.isScalarValue n = true) :
    Translates ('\\' :: 'u' :: digits) [Char.ofNat n] := by
  intro rest
  have hescape := unicodeEscape?_eq hlength hmark hn hscalar rest
  have hskip := skip_eq true ('u' :: digits) rest
  rw [List.length_cons, hlength, List.cons_append] at hskip
  rw [List.cons_append, List.cons_append, translate]
  simp only [List.head?_cons, decide_true, Bool.and_self, if_true, hescape]
  rw [hskip]
  rfl

end Translates

def letterEscape? (c : Char) : Option Char :=
  if c = 'b' then some '\x08'
  else if c = 't' then some '\t'
  else if c = 'n' then some '\n'
  else if c = 'f' then some '\x0c'
  else if c = 'r' then some '\r'
  else if c = 's' then some ' '
  else if c = '\x22' || c = '\x27' || c = '\\' then some c
  else none

def isOctalDigit (c : Char) : Bool := '0' ≤ c && c ≤ '7'

def escapeSequence? (cs : List Char) : Option (Char × Nat) :=
  match cs with
  | [] => none
  | c :: _ =>
    match letterEscape? c with
    | some d => some (d, 1)
    | none =>
      match (cs.take (if c ≤ '3' then 3 else 2)).takeWhile isOctalDigit with
      | [] => none
      | digits => some (Char.ofNat (Nat.ofDigitChars 8 digits 0), digits.length)

/-- The characters up to the closing quote, with escape sequences replaced, and what comes after.
The next `skip` characters belong to an escape sequence already read. -/
def untilQuote (skip : Nat) : List Char → Option (List Char × List Char)
  | [] => none
  | c :: rest =>
    match skip with
    | k + 1 => untilQuote k rest
    | 0 =>
      if c = '\x22' then some ([], rest)
      else if c = '\n' || c = '\r' then none
      else if c = '\\' then
        match escapeSequence? rest with
        | some (d, size) => (untilQuote size rest).map fun (ds, left) => (d :: ds, left)
        | none => none
      else (untilQuote 0 rest).map fun (ds, left) => (c :: ds, left)

def translatedChar (c : Char) : List Char :=
  match escapeLetter? c with
  | some e => ['\\', e]
  | none => [c]

theorem hexNumber?_control : ∀ n < 160, (Text.hexDigits 4 n).head? ≠ some 'u' ∧
    GraphQL.hexNumber? (Text.hexDigits 4 n) = some n ∧ GraphQL.isScalarValue n = true := by
  decide +kernel

theorem toNat_lt_of_isControl {c : Char} (h : isControl c = true) : c.toNat < 160 := by
  simp only [isControl, Bool.or_eq_true, Bool.and_eq_true, decide_eq_true_eq] at h
  omega

theorem escapeLetter?_ne {c e : Char} (h : escapeLetter? c = some e) : e ≠ 'u' := by
  rintro rfl
  unfold escapeLetter? at h
  split_ifs at h <;> cases h

theorem translates_stringChar (c : Char) : Translates (stringChar c) (translatedChar c) := by
  unfold stringChar translatedChar
  cases he : escapeLetter? c with
  | some e => exact .escape (escapeLetter?_ne he)
  | none =>
    simp only
    split
    · rename_i hc
      obtain ⟨hmark, hn, hscalar⟩ := hexNumber?_control c.toNat (toNat_lt_of_isControl hc)
      have hunicode := Translates.unicode (Text.length_hexDigits 4 c.toNat) hmark hn hscalar
      rwa [Char.ofNat_toNat] at hunicode
    · refine .singleton ?_
      rintro rfl
      cases he

theorem letterEscape?_escapeLetter? {c e : Char} (h : escapeLetter? c = some e) :
    letterEscape? e = some c := by
  unfold escapeLetter? at h
  split_ifs at h with h1 h2 h3 h4 h5 h6 h7 <;> cases h <;> subst_vars <;> rfl

theorem untilQuote_translatedChar (c : Char) (rest : List Char) :
    untilQuote 0 (translatedChar c ++ rest) =
      (untilQuote 0 rest).map fun (ds, left) => (c :: ds, left) := by
  unfold translatedChar
  cases he : escapeLetter? c with
  | some e =>
    have hsequence : escapeSequence? (e :: rest) = some (c, 1) := by
      simp only [escapeSequence?, letterEscape?_escapeLetter? he]
    simp [untilQuote, hsequence]
  | none =>
    have hplain : c ≠ '\x22' ∧ c ≠ '\n' ∧ c ≠ '\r' ∧ c ≠ '\\' := by
      refine ⟨?_, ?_, ?_, ?_⟩ <;> rintro rfl <;> cases he
    simp [untilQuote, hplain]

theorem untilQuote_flatMap (cs rest : List Char) :
    untilQuote 0 (cs.flatMap translatedChar ++ '\x22' :: rest) = some (cs, rest) := by
  induction cs with
  | nil => simp [untilQuote]
  | cons c cs ih =>
    rw [List.flatMap_cons, List.append_assoc, untilQuote_translatedChar, ih]
    rfl

namespace Reader

def string : Reader Literal := do
  expect "\x22"
  fun cs => (untilQuote 0 cs).map fun (ds, left) => (.string (String.ofList ds), left)

def natural : Reader Nat := do
  let digits ← takeWhile Char.isDigit
  if digits.toList.head? = some '0' && digits.toList.length != 1 then failure
  return Nat.ofDigitChars 10 digits.toList 0

def integer : Reader Literal :=
  (do
    expect "-"
    return .int (-(← natural))) <|> (do return .int (← natural))

def boolean : Reader Literal := do
  let word ← takeWhile isIdentifierPart
  if word = "true" then return .boolean true
  else if word = "false" then return .boolean false
  else failure

def literal : Reader Literal := string <|> integer <|> boolean

end Reader

def Literal.translated : Literal → String
  | .string s => String.ofList ('\x22' :: s.toList.flatMap translatedChar ++ ['\x22'])
  | .int n => toString n
  | .boolean b => if b then "true" else "false"

theorem not_mem_toDigits (n : Nat) {c : Char} (hc : c.isDigit = false) : c ∉ Nat.toDigits 10 n := by
  intro h
  rw [Nat.isDigit_of_mem_toDigits (by decide) (by decide) h] at hc
  cases hc

theorem toList_toString_int (n : Int) :
    (toString n).toList = (if n < 0 then ['-'] else []) ++ Nat.toDigits 10 n.natAbs := by
  cases n with
  | ofNat m => simp [toString, Int.repr]
  | negSucc m => simp [toString, Int.repr, Int.negSucc_lt_zero]

theorem Literal.translates_text (l : Literal) : Translates l.text.toList l.translated.toList := by
  cases l with
  | string s =>
    rw [Literal.text, toList_stringLiteral, Literal.translated, String.toList_ofList]
    have hquote : Translates ['\x22'] ['\x22'] := .singleton (by decide)
    exact (hquote.append (.flatMap _ fun c _ => translates_stringChar c)).append hquote
  | int n =>
    refine Translates.of_not_mem ?_
    rw [Literal.text, toList_toString_int, List.mem_append, not_or]
    refine ⟨?_, not_mem_toDigits _ (by decide)⟩
    split <;> simp
  | boolean b => cases b <;> exact Translates.of_not_mem (by decide)

theorem reads_string (s : String) :
    Reads Reader.string (Literal.string s).translated (.string s) anything := by
  have htext : (Literal.string s).translated =
      "\x22" ++ String.ofList (s.toList.flatMap translatedChar ++ ['\x22']) := by
    apply String.toList_inj.mp
    simp [Literal.translated]
  rw [htext]
  refine (Reads.expect _).andThen ?_
  intro rest _
  simp only [String.toList_ofList, List.append_assoc, List.singleton_append]
  rw [untilQuote_flatMap]
  simp

theorem head?_toDigits {n : Nat} (hn : 0 < n) : (Nat.toDigits 10 n).head? ≠ some '0' := by
  induction n using Nat.strongRecOn with
  | ind n ih =>
    rw [Nat.toDigits_eq_if (by decide)]
    split
    · rename_i hlt
      have hdigits : ∀ m < 10, 0 < m → [m.digitChar].head? ≠ some '0' := by decide
      exact hdigits n hlt hn
    · rename_i hge
      have hquotient := ih (n / 10) (by omega) (by omega)
      rwa [List.head?_append_of_ne_nil _ Nat.toDigits_ne_nil]

theorem reads_natural (n : Nat) :
    Reads Reader.natural (String.ofList (Nat.toDigits 10 n)) n (Stops Char.isDigit) := by
  have hne : String.ofList (Nat.toDigits 10 n) ≠ "" := by
    intro h
    have hnil := congrArg String.toList h
    rw [String.toList_ofList] at hnil
    exact Nat.toDigits_ne_nil hnil
  have hdigit : ∀ c ∈ (String.ofList (Nat.toDigits 10 n)).toList, c.isDigit = true := by
    intro c hc
    rw [String.toList_ofList] at hc
    exact Nat.isDigit_of_mem_toDigits (by decide) (by decide) hc
  have hzero : (decide ((Nat.toDigits 10 n).head? = some '0') &&
      (Nat.toDigits 10 n).length != 1) = false := by
    rcases Nat.eq_zero_or_pos n with rfl | hn
    · decide
    · simp [head?_toDigits hn]
  refine (Reads.takeWhile hne hdigit).bind_eq_pure ?_
  simp only [String.toList_ofList, Nat.ofDigitChars_ten_toDigits, hzero, Bool.false_eq_true,
    if_false]

theorem reads_integer (n : Int) :
    Reads Reader.integer (toString n) (.int n) (Stops Char.isDigit) := by
  have htext : toString n =
      (if n < 0 then "-" else "") ++ String.ofList (Nat.toDigits 10 n.natAbs) := by
    apply String.toList_inj.mp
    rw [toList_toString_int, String.toList_append, String.toList_ofList]
    split <;> rfl
  have hnatural := reads_natural n.natAbs
  rw [htext]
  unfold Reader.integer
  split
  · rename_i hneg
    have hn : -(n.natAbs : Int) = n := by omega
    have hread := hnatural.bind_pure fun m => Literal.int (-m)
    rw [hn] at hread
    refine Reads.orElse_left ?_ _
    exact (Reads.expect "-").andThen hread
  · rename_i hpos
    have hn : (n.natAbs : Int) = n := by omega
    have hread := hnatural.bind_pure fun m => Literal.int m
    rw [hn] at hread
    rw [String.empty_append]
    refine hread.orElse_right ?_
    -- A sign is tried first, and no digit is one.
    intro rest _
    refine bind_eq_none ?_ _
    obtain ⟨d, ds, hd⟩ := List.exists_cons_of_ne_nil (Nat.toDigits_ne_nil (n := n.natAbs) (b := 10))
    have hne : d ≠ '-' := by
      rintro rfl
      exact not_mem_toDigits n.natAbs (c := '-') (by decide) (hd ▸ List.mem_cons_self)
    rw [hd, String.toList_ofList]
    exact expect_eq_none_of_head rfl hne _

theorem reads_boolean (b : Bool) :
    Reads Reader.boolean (Literal.boolean b).translated (.boolean b) (Stops isIdentifierPart) := by
  have htake : ∀ s : String, s ≠ "" → s.toList.all isIdentifierPart = true →
      Reads (Reader.takeWhile isIdentifierPart) s s (Stops isIdentifierPart) :=
    fun s hne hall => Reads.takeWhile hne (List.all_eq_true.mp hall)
  cases b with
  | true => exact (htake "true" (by decide) (by decide)).bind_eq_pure rfl
  | false => exact (htake "false" (by decide) (by decide)).bind_eq_pure rfl

theorem not_isDigit_of_not_isIdentifierPart {c : Char} (h : isIdentifierPart c = false) :
    c.isDigit = false := by
  rw [Bool.eq_false_iff] at h ⊢
  intro hd
  refine h ?_
  simp only [Char.isDigit, Bool.and_eq_true, decide_eq_true_eq] at hd
  simp only [isIdentifierPart, Bool.or_eq_true, Bool.and_eq_true, decide_eq_true_eq]
  exact .inr hd

theorem head_toString_int (n : Int) :
    ∃ c cs, (toString n).toList = c :: cs ∧ (c = '-' ∨ c.isDigit = true) := by
  obtain ⟨d, ds, hd⟩ := List.exists_cons_of_ne_nil (Nat.toDigits_ne_nil (n := n.natAbs) (b := 10))
  rw [toList_toString_int, hd]
  split
  · exact ⟨'-', d :: ds, rfl, .inl rfl⟩
  · exact ⟨d, ds, rfl, .inr (Nat.isDigit_of_mem_toDigits (by decide) (by decide)
      (hd ▸ List.mem_cons_self))⟩

theorem Literal.head_translated (l : Literal) : ∃ c cs, l.translated.toList = c :: cs ∧
    (c = '\x22' ∨ c = '-' ∨ isIdentifierPart c = true) := by
  cases l with
  | string s => exact ⟨'\x22', _, String.toList_ofList, .inl rfl⟩
  | int n =>
    obtain ⟨c, cs, htext, hc⟩ := head_toString_int n
    refine ⟨c, cs, htext, .inr (hc.imp_right fun hd => ?_)⟩
    by_contra h
    rw [not_isDigit_of_not_isIdentifierPart (Bool.eq_false_iff.mpr h)] at hd
    cases hd
  | boolean b =>
    cases b with
    | true => exact ⟨'t', ['r', 'u', 'e'], rfl, .inr (.inr (by decide))⟩
    | false => exact ⟨'f', ['a', 'l', 's', 'e'], rfl, .inr (.inr (by decide))⟩

theorem reads_literal (l : Literal) :
    Reads Reader.literal l.translated l (Stops isIdentifierPart) := by
  unfold Reader.literal
  cases l with
  | string s => exact ((reads_string s).mono fun _ _ => trivial).orElse_left _
  | int n =>
    refine Reads.orElse_right (Reads.orElse_left ?_ _) ?_
    · exact (reads_integer n).mono fun rest h c hc => not_isDigit_of_not_isIdentifierPart (h c hc)
    · intro rest _
      obtain ⟨c, cs, htext, hc⟩ := head_toString_int n
      have hquote : c ≠ '\x22' := by
        rintro rfl
        revert hc
        decide
      rw [Literal.translated, htext]
      exact bind_eq_none (expect_eq_none_of_head rfl hquote _) _
  | boolean b =>
    refine Reads.orElse_right (Reads.orElse_right (reads_boolean b) ?_) ?_
    · intro rest _
      cases b <;> rfl
    · intro rest _
      cases b <;> rfl

theorem Literal.translate_text (l : Literal) :
    translate true 0 l.text.toList = some l.translated.toList := by
  have htranslates := l.translates_text []
  rw [List.append_nil] at htranslates
  exact htranslates.trans (by simp [translate])

def readLiteral? (text : String) : Option Literal := do
  let t ← translate true 0 text.toList
  let (l, rest) ← Reader.literal t
  if rest.isEmpty then some l else none

/-- The text of a literal is read as that literal. -/
@[simp] theorem readLiteral?_text (l : Literal) : readLiteral? l.text = some l := by
  have hreads := reads_literal l [] fun _ h => nomatch h
  rw [List.append_nil] at hreads
  simp [readLiteral?, l.translate_text, hreads]

theorem Literal.text_injective : Function.Injective Literal.text := by
  intro l l' h
  have hread := congrArg readLiteral? h
  rw [readLiteral?_text, readLiteral?_text] at hread
  exact Option.some.inj hread

end SchemaToJava.Java
