import SchemaToJava.Text.Blank
import SchemaToJava.Text.Quoted

/-!
Texts in which half of a surrogate pair may stand by itself. Escapes can write such a text, though
no file has it for its name. Apart from the halves a wide text behaves as an ordinary one does.
-/

namespace SchemaToJava.Text

inductive CodePoint where
  | char (c : Char)
  | half (offset : Fin 0x800)
  deriving DecidableEq, Repr

def firstHalf : Nat := 0xD800

namespace CodePoint

def toNat : CodePoint → Nat
  | char c => c.toNat
  | half i => firstHalf + i

def ofNat? (n : Nat) : Option CodePoint :=
  if n.isValidChar then some (char (Char.ofNat n))
  else if h : n - firstHalf < 0x800 then some (half ⟨n - firstHalf, h⟩)
  else none

def toChar? : CodePoint → Option Char
  | char c => some c
  | half _ => none

def isBlank : CodePoint → Bool
  | char c => Text.isBlank c
  | half _ => false

end CodePoint

abbrev Wide := List CodePoint

namespace Wide

def ofChars (cs : List Char) : Wide := cs.map .char

def ofString (s : String) : Wide := ofChars s.toList

def toChars? (t : Wide) : Option (List Char) := t.mapM (·.toChar?)

def toString? (t : Wide) : Option String := (toChars? t).map String.ofList

/-- Halves that follow each other in a text, and how much of it is in front of them. -/
structure Halves where
  start : Nat
  run : Wide
  deriving DecidableEq, Repr

def firstHalves (t : Wide) : Halves :=
  ⟨(t.takeWhile (·.toChar?.isSome)).length,
    (t.dropWhile (·.toChar?.isSome)).takeWhile (·.toChar?.isNone)⟩

def ordinary (t : Wide) : Except Halves String :=
  match toString? t with
  | some s => .ok s
  | none => .error (firstHalves t)

/-- The text with every half replaced by the marks for the three bytes it would take. -/
def lossy (t : Wide) : String :=
  String.ofList (t.flatMap fun
    | .char c => [c]
    | .half _ => List.replicate 3 '\uFFFD')

def trim (t : Wide) : Wide :=
  ((t.dropWhile CodePoint.isBlank).reverse.dropWhile CodePoint.isBlank).reverse

def isBlank (t : Wide) : Bool := t.all CodePoint.isBlank

def le : Wide → Wide → Bool
  | [], _ => true
  | _ :: _, [] => false
  | a :: s, b :: t => a.toNat < b.toNat || (a.toNat = b.toNat && le s t)

def quotedPoint (quote : Char) : CodePoint → List Char
  | .char c => quotedChar quote c
  | .half i => '\\' :: 'u' :: hexDigits 4 (firstHalf + i)

def quoted (t : Wide) : String :=
  let q := quoteFor (t.filterMap (·.toChar?))
  String.ofList (q :: t.flatMap (quotedPoint q) ++ [q])

def quotedList (items : List Wide) : String :=
  "[" ++ ", ".intercalate (items.map quoted) ++ "]"

def Halves.after (h : Halves) (length : Nat) : Halves := { h with start := length + h.start }

def Halves.message (h : Halves) : String :=
  let kind := match h.run with
    | [p] => s!"character {quoted [p]} in position {h.start}"
    | run => s!"characters in position {h.start}-{h.start + run.length - 1}"
  s!"'utf-8' codec can't encode {kind}: surrogates not allowed"

@[simp] theorem toChars?_ofChars (cs : List Char) : toChars? (ofChars cs) = some cs := by
  induction cs with
  | nil => rfl
  | cons c r ih =>
    simp only [toChars?, ofChars, List.map_cons, List.mapM_cons] at ih ⊢
    rw [ih]
    rfl

@[simp] theorem toString?_ofString (s : String) : toString? (ofString s) = some s := by
  simp [toString?, ofString]

theorem toChars?_eq_some_iff {t : Wide} {cs : List Char} :
    toChars? t = some cs ↔ t = ofChars cs := by
  refine ⟨fun h => ?_, fun h => h ▸ toChars?_ofChars cs⟩
  induction t generalizing cs with
  | nil =>
    cases Option.some.inj h
    rfl
  | cons p r ih =>
    cases p with
    | half i => exact nomatch h
    | char c =>
      have h : (toChars? r).bind (fun ds => some (c :: ds)) = some cs := by
        simpa [toChars?, CodePoint.toChar?] using h
      obtain ⟨ds, hds, hcs⟩ := Option.bind_eq_some_iff.1 h
      cases hcs
      simp [ih hds, ofChars]

theorem toString?_eq_some_iff {t : Wide} {s : String} : toString? t = some s ↔ t = ofString s := by
  refine ⟨fun h => ?_, fun h => h ▸ toString?_ofString s⟩
  obtain ⟨cs, hcs, rfl⟩ := Option.map_eq_some_iff.1 h
  simp [ofString, toChars?_eq_some_iff.1 hcs]

/-- Exactly the texts without halves are ordinary ones. -/
theorem ordinary_eq_ok_iff {t : Wide} {s : String} : ordinary t = .ok s ↔ t = ofString s := by
  rw [← toString?_eq_some_iff]
  simp only [ordinary]
  split <;> simp_all

@[simp] theorem ordinary_ofString (s : String) : ordinary (ofString s) = .ok s :=
  ordinary_eq_ok_iff.2 rfl

theorem ofString_injective {s t : String} (h : ofString s = ofString t) : s = t :=
  Option.some.inj (by rw [← toString?_ofString s, h, toString?_ofString])

@[simp] theorem trim_ofChars (cs : List Char) : trim (ofChars cs) = ofChars (trimChars cs) := by
  have h : CodePoint.isBlank ∘ CodePoint.char = Text.isBlank := rfl
  simp [trim, ofChars, trimChars, List.dropWhile_map, ← List.map_reverse, h]

@[simp] theorem trim_ofString (s : String) : trim (ofString s) = ofString (Text.trim s) := by
  simp [ofString]

@[simp] theorem isBlank_ofString (s : String) : isBlank (ofString s) = isBlankText s := by
  simp only [isBlank, ofString, ofChars, List.all_map, isBlankText]
  rfl

@[simp] theorem lossy_ofString (s : String) : lossy (ofString s) = s := by
  simp [lossy, ofString, ofChars, List.flatMap_map]

example : quoted [.char 'a', .half 0x400] = "'a\\udc00'" := by decide
example : firstHalves [.char 'a', .half 0, .half 1] = ⟨1, [.half 0, .half 1]⟩ := by decide
example : CodePoint.ofNat? 0xD83D = some (.half 0x3D) := by decide

end Wide

end SchemaToJava.Text
