import SchemaToJava.Proofs.Config.ExcludeFiles
import SchemaToJava.Proofs.Config.Fields
import SchemaToJava.Proofs.Config.PackageName

/-!
What is told of settings that make no configuration. Which problem a field has is described by what
is given for the field alone, and settings are told to have the problems of their fields, each once
and in the order of the fields; only halves in a package name keep the problems from being told.
-/

namespace SchemaToJava.Config

open Java Text

/-- The first is no value for a directory, for the second reason. -/
inductive WrongPath : Setting → Reason → Prop where
  | blank {t : Wide} (hblank : t.isBlank = true) : WrongPath (.value (.text t)) .blankPath
  | noText {v : Yaml.Value} (hnoText : ∀ t, v ≠ .text t) : WrongPath (.value v) .notPath

/-- The text that a value stands for where a text is expected. -/
inductive Spells : Yaml.Value → Wide → Prop where
  | text (t : Wide) : Spells (.text t) t
  | binary {bytes : List UInt8} {cs : List Char} (hdecode : Utf8.decode bytes = .ok cs) :
    Spells (.binary bytes) (.ofChars cs)

inductive WrongName : Setting → Reason → Prop where
  | path (p : Path) : WrongName (.path p) .notText
  | noText {v : Yaml.Value} (hnoText : ∀ t, v ≠ .text t) (hnoBytes : ∀ bytes, v ≠ .binary bytes) :
    WrongName (.value v) .notText
  | undecodable {bytes : List UInt8} {e : Utf8.DecodeError}
    (hdecode : Utf8.decode bytes = .error e) :
    WrongName (.value (.binary bytes)) .undecodableText
  | notName {v : Yaml.Value} {t : Wide} {s : String} (hspells : Spells v t)
    (hstrips : t.StripsTo (.ofString s)) (hname : ¬ Dotted AdmittedSegment s) :
    WrongName (.value v) (.notPackageName s)
  | halves {v : Yaml.Value} {t u : Wide} {h : Wide.Halves} (hspells : Spells v t)
    (hstrips : t.StripsTo u) (hhalves : u.ordinary = .error h) :
    WrongName (.value v) (.halvesInPackageName h)

/-- What a value lists if it is not a text. The bytes of a binary value are integers. -/
inductive Lists : Yaml.Value → List Yaml.Value → Prop where
  | list (items : List Yaml.Value) : Lists (.list items) items
  | set (items : List Yaml.Value) : Lists (.set items) items
  | mapping (entries : List (Yaml.Value × Yaml.Value)) :
    Lists (.mapping entries) (entries.map (·.1))
  | binary (bytes : List UInt8) : Lists (.binary bytes) (bytes.map fun b => .int b.toNat)

inductive WrongNames : Setting → Reason → Prop where
  | path (p : Path) : WrongNames (.path p) .notNameSet
  | noNames {v : Yaml.Value} (hnull : v ≠ .null) (hnoText : ∀ t, v ≠ .text t)
    (hlists : ∀ items, ¬ Lists v items) : WrongNames (.value v) .notNameSet
  | unwritable {v item : Yaml.Value} {items : List Yaml.Value} (hlists : Lists v items)
    (hitem : item ∈ items) (hunwritable : item.isShowable = false) :
    WrongNames (.value v) .unwritableInteger

variable {v : Setting} {r : Reason}

theorem checkPath_of_noText {w : Yaml.Value} (hnoText : ∀ t, w ≠ .text t) :
    checkPath (.value w) = .error .notPath := by
  cases w with
  | text t => exact absurd rfl (hnoText t)
  | _ => rfl

theorem checkPath_eq_error_iff : checkPath v = .error r ↔ WrongPath v r := by
  constructor
  · intro h
    cases v with
    | path p => cases h
    | value w =>
      by_cases htext : ∃ t, w = .text t
      · obtain ⟨t, rfl⟩ := htext
        rw [checkPath] at h
        split at h
        · rename_i hblank
          cases h
          exact .blank hblank
        · cases h
      · rw [checkPath_of_noText (not_exists.mp htext)] at h
        cases h
        exact .noText (not_exists.mp htext)
  · rintro (hblank | hnoText)
    · rw [checkPath, if_pos hblank]
    · exact checkPath_of_noText hnoText

theorem packageNameOf_eq_error_iff {t : Wide} : packageNameOf t = .error r ↔
    (∃ s, t.StripsTo (.ofString s) ∧ ¬ Dotted AdmittedSegment s ∧ r = .notPackageName s) ∨
    ∃ u h, t.StripsTo u ∧ u.ordinary = .error h ∧ r = .halvesInPackageName h := by
  simp only [Wide.stripsTo_iff, ← isPackageName_iff_dotted, ← Wide.ordinary_eq_ok_iff]
  unfold packageNameOf
  cases hname : Wide.ordinary (Wide.trim t) with
  | ok s =>
    by_cases hpackage : isPackageName s = true
    · simp [hpackage, hname]
    · simp [hpackage, hname, @eq_comm _ r]
  | error h => simp [hname, @eq_comm _ r]

theorem checkPackageName_of_spells {w : Yaml.Value} {t : Wide} (h : Spells w t) :
    checkPackageName (.value w) = packageNameOf t := by
  cases h with
  | text => rfl
  | binary hdecode => rw [checkPackageName, hdecode]

theorem checkPackageName_of_noText {w : Yaml.Value} (hnoText : ∀ t, w ≠ .text t)
    (hnoBytes : ∀ bytes, w ≠ .binary bytes) : checkPackageName (.value w) = .error .notText := by
  cases w with
  | text t => exact absurd rfl (hnoText t)
  | binary bytes => exact absurd rfl (hnoBytes bytes)
  | _ => rfl

theorem wrongName_of_spells {w : Yaml.Value} {t : Wide} (hspells : Spells w t)
    (h : checkPackageName (.value w) = .error r) : WrongName (.value w) r := by
  rw [checkPackageName_of_spells hspells] at h
  rcases packageNameOf_eq_error_iff.mp h with ⟨s, hstrips, hname, rfl⟩ | ⟨u, e, hu, he, rfl⟩
  · exact .notName hspells hstrips hname
  · exact .halves hspells hu he

theorem checkPackageName_eq_error_iff : checkPackageName v = .error r ↔ WrongName v r := by
  constructor
  · intro h
    cases v with
    | path p =>
      cases h
      exact .path p
    | value w =>
      by_cases htext : ∃ t, w = .text t
      · obtain ⟨t, rfl⟩ := htext
        exact wrongName_of_spells (.text t) h
      by_cases hbytes : ∃ bytes, w = .binary bytes
      · obtain ⟨bytes, rfl⟩ := hbytes
        cases hdecode : Utf8.decode bytes with
        | ok cs => exact wrongName_of_spells (.binary hdecode) h
        | error e =>
          rw [checkPackageName, hdecode] at h
          cases h
          exact .undecodable hdecode
      · rw [checkPackageName_of_noText (not_exists.mp htext) (not_exists.mp hbytes)] at h
        cases h
        exact .noText (not_exists.mp htext) (not_exists.mp hbytes)
  · intro h
    cases h with
    | path => rfl
    | noText hnoText hnoBytes => exact checkPackageName_of_noText hnoText hnoBytes
    | undecodable hdecode => rw [checkPackageName, hdecode]
    | notName hspells hstrips hname =>
      rw [checkPackageName_of_spells hspells]
      exact packageNameOf_eq_error_iff.mpr (.inl ⟨_, hstrips, hname, rfl⟩)
    | halves hspells hstrips hhalves =>
      rw [checkPackageName_of_spells hspells]
      exact packageNameOf_eq_error_iff.mpr (.inr ⟨_, _, hstrips, hhalves, rfl⟩)

theorem namesOf_eq_error_iff {items : List Yaml.Value} : namesOf items = .error r ↔
    (∃ item ∈ items, item.isShowable = false) ∧ r = .unwritableInteger := by
  have hsome : ¬ items.all (·.isShowable) = true ↔ ∃ item ∈ items, item.isShowable = false := by
    simp
  rw [← hsome, namesOf]
  split
  · rename_i hall
    simp [hall]
  · rename_i hnot
    simp [hnot, @eq_comm _ r]

theorem checkNames_of_lists {w : Yaml.Value} {items : List Yaml.Value} (h : Lists w items) :
    checkNames (.value w) = namesOf items := by
  cases h <;> rfl

theorem checkNames_of_noNames {w : Yaml.Value} (hnull : w ≠ .null) (hnoText : ∀ t, w ≠ .text t)
    (hnoItems : ∀ items, ¬ Lists w items) : checkNames (.value w) = .error .notNameSet := by
  cases w with
  | null => exact absurd rfl hnull
  | text t => exact absurd rfl (hnoText t)
  | list items => exact absurd (.list items) (hnoItems _)
  | set items => exact absurd (.set items) (hnoItems _)
  | mapping entries => exact absurd (.mapping entries) (hnoItems _)
  | binary bytes => exact absurd (.binary bytes) (hnoItems _)
  | _ => rfl

theorem checkNames_eq_error_iff : checkNames v = .error r ↔ WrongNames v r := by
  constructor
  · intro h
    cases v with
    | path p =>
      cases h
      exact .path p
    | value w =>
      by_cases hlists : ∃ items, Lists w items
      · obtain ⟨items, hlists⟩ := hlists
        rw [checkNames_of_lists hlists] at h
        obtain ⟨⟨item, hitem, hunwritable⟩, rfl⟩ := namesOf_eq_error_iff.mp h
        exact .unwritable hlists hitem hunwritable
      by_cases hnull : w = .null
      · cases hnull
        cases h
      by_cases htext : ∃ t, w = .text t
      · obtain ⟨t, rfl⟩ := htext
        cases h
      · rw [checkNames_of_noNames hnull (not_exists.mp htext) (not_exists.mp hlists)] at h
        cases h
        exact .noNames hnull (not_exists.mp htext) (not_exists.mp hlists)
  · intro h
    cases h with
    | path => rfl
    | noNames hnull hnoText hnoItems => exact checkNames_of_noNames hnull hnoText hnoItems
    | unwritable hlists hitem hunwritable =>
      rw [checkNames_of_lists hlists]
      exact namesOf_eq_error_iff.mpr ⟨⟨_, hitem, hunwritable⟩, rfl⟩

variable {s s' : Settings}

theorem FieldKeys.find?_eq_some_iff {k : FieldKeys} {key : String} :
    k.find? s = some (key, v) ↔
      s.lookup key = some v ∧ (key = k.key ∨ key = k.otherKey ∧ s.lookup k.key = none) := by
  unfold FieldKeys.find?
  cases hkey : s.lookup k.key with
  | some w =>
    constructor
    · intro h
      cases h
      exact ⟨hkey, .inl rfl⟩
    · rintro ⟨hv, rfl | ⟨-, hnone⟩⟩
      · rw [hkey] at hv
        cases hv
        rfl
      · cases hnone
  | none =>
    rw [Option.map_eq_some_iff]
    constructor
    · rintro ⟨w, hw, h⟩
      cases h
      exact ⟨hw, .inr ⟨rfl, rfl⟩⟩
    · rintro ⟨hv, rfl | ⟨rfl, -⟩⟩
      · rw [hkey] at hv
        cases hv
      · exact ⟨v, hv, rfl⟩

theorem FieldKeys.find?_eq_none_iff {k : FieldKeys} :
    k.find? s = none ↔ s.lookup k.key = none ∧ s.lookup k.otherKey = none := by
  unfold FieldKeys.find?
  cases s.lookup k.key with
  | some w => simp
  | none => simp

theorem excludeFilesOf_eq_error_iff {p : Problem} : excludeFilesOf s = .error p ↔
    ∃ key v r, excludeFilesKeys.find? s = some (key, v) ∧ checkNames v = .error r ∧
      p = ⟨key, r⟩ := by
  unfold excludeFilesOf
  cases excludeFilesKeys.find? s with
  | none => simp
  | some e =>
    obtain ⟨key, v⟩ := e
    cases hv : checkNames v <;> simp [hv, Except.mapError, @eq_comm _ p]

namespace Field

def isRequired : Field → Bool
  | excludeFiles => false
  | _ => true

def Absent (f : Field) (s : Settings) : Prop :=
  s.lookup f.keys.key = none ∧ s.lookup f.keys.otherKey = none

/-- A field is given the value under the key. Its other key only counts without the first. -/
def Given (f : Field) (s : Settings) (key : String) (v : Setting) : Prop :=
  s.lookup key = some v ∧ (key = f.keys.key ∨ key = f.keys.otherKey ∧ s.lookup f.keys.key = none)

def Wrong : Field → Setting → Reason → Prop
  | schemaDir => WrongPath
  | outputDir => WrongPath
  | packageName => WrongName
  | excludeFiles => WrongNames

/-- The problems that settings have with a field. -/
inductive Offence (f : Field) (s : Settings) : Problem → Prop where
  | missing (hrequired : f.isRequired = true) (habsent : f.Absent s) :
    Offence f s ⟨f.keys.key, .missing⟩
  | wrong {key : String} {v : Setting} {r : Reason} (hgiven : f.Given s key v)
    (hwrong : f.Wrong v r) : Offence f s ⟨key, r⟩

variable {f g : Field} {p q : Problem}

theorem offence_iff : f.Offence s p ↔
    f.isRequired = true ∧ f.keys.find? s = none ∧ p = ⟨f.keys.key, .missing⟩ ∨
      ∃ key v r, f.keys.find? s = some (key, v) ∧ f.Wrong v r ∧ p = ⟨key, r⟩ := by
  constructor
  · rintro (⟨hrequired, habsent⟩ | ⟨hgiven, hwrong⟩)
    · exact .inl ⟨hrequired, FieldKeys.find?_eq_none_iff.mpr habsent, rfl⟩
    · exact .inr ⟨_, _, _, FieldKeys.find?_eq_some_iff.mpr hgiven, hwrong, rfl⟩
  · rintro (⟨hrequired, hnone, rfl⟩ | ⟨key, v, r, hfind, hwrong, rfl⟩)
    · exact .missing hrequired (FieldKeys.find?_eq_none_iff.mp hnone)
    · exact .wrong (FieldKeys.find?_eq_some_iff.mp hfind) hwrong

theorem checked_eq_error_iff : f.checked s = .error p ↔ f.Offence s p := by
  rw [offence_iff]
  cases f with
  | schemaDir =>
    simp only [checked, isRequired, keys, Wrong, true_and, ← checkPath_eq_error_iff]
    exact required_eq_error_iff
  | outputDir =>
    simp only [checked, isRequired, keys, Wrong, true_and, ← checkPath_eq_error_iff]
    exact required_eq_error_iff
  | packageName =>
    simp only [checked, isRequired, keys, Wrong, true_and, ← checkPackageName_eq_error_iff]
    exact required_eq_error_iff
  | excludeFiles =>
    simp only [checked, isRequired, keys, Wrong, Bool.false_eq_true, false_and, false_or,
      ← checkNames_eq_error_iff]
    exact excludeFilesOf_eq_error_iff

theorem Offence.key (h : f.Offence s p) : p.key = f.keys.key ∨ p.key = f.keys.otherKey := by
  cases h with
  | missing => exact .inl rfl
  | wrong hgiven => exact hgiven.2.imp_right And.left

theorem Wrong.ne_missing (h : f.Wrong v r) : r ≠ .missing := by
  rintro rfl
  cases f <;> cases h

theorem Offence.message (h : f.Offence s p) :
    f.Absent s ∧ p.message = "Missing required parameter: " ++ f.keys.key ∨
    ∃ key v r, f.Given s key v ∧ f.Wrong v r ∧ p.message = key ++ ": " ++ r.text := by
  cases h with
  | missing _ habsent => exact .inl ⟨habsent, rfl⟩
  | @wrong key v r hgiven hwrong =>
    refine .inr ⟨key, v, r, hgiven, hwrong, ?_⟩
    unfold Problem.message
    split
    · rename_i hmissing
      exact absurd hmissing hwrong.ne_missing
    · rfl

def told (f : Field) (s : Settings) : List Problem :=
  match (build s).outcome with
  | .error (.configuration problems) =>
    problems.filter fun p => p.key == f.keys.key || p.key == f.keys.otherKey
  | _ => []

theorem filter_problem? (f g : Field) (s : Settings) :
    (problem? (g.checked s)).filter (fun p => p.key == f.keys.key || p.key == f.keys.otherKey) =
      if g = f then problem? (g.checked s) else [] := by
  cases hchecked : g.checked s with
  | ok v => simp [problem?]
  | error p =>
    have hkey := (checked_eq_error_iff.mp hchecked).key
    split
    · rename_i heq
      rw [heq] at hkey
      simpa [problem?, List.filter_cons, or_iff_not_imp_left] using hkey
    · rename_i hne
      have hother : ¬ (p.key = f.keys.key ∨ p.key = f.keys.otherKey) := fun h =>
        hne (eq_of_key hkey h)
      simpa [problem?, List.filter_cons] using hother

theorem filter_problems (f : Field) (s : Settings) :
    (all.flatMap fun g => problem? (g.checked s)).filter
      (fun p => p.key == f.keys.key || p.key == f.keys.otherKey) = problem? (f.checked s) := by
  rw [List.filter_flatMap]
  simp only [filter_problem?, all]
  cases f <;> simp

end Field

theorem outcome_build_of_error {problems : List Problem} (h : ofSettings s = .error problems) :
    (build s).outcome = .error (faultOf problems) := by
  rw [build, h]
  rfl

theorem outcome_build_of_ok {c : Config} (h : ofSettings s = .ok c) :
    (build s).outcome = .ok c := by
  rw [build, h]
  rfl

theorem faultOf_of_not_namesHalves (hhalves : ∀ h, ¬ NamesHalves s h) {problems : List Problem}
    (h : ofSettings s = .error problems) : faultOf problems = .configuration problems := by
  rcases faultOf_of_ofSettings h with htold | ⟨e, hnames, -⟩
  · exact htold
  · exact absurd hnames (hhalves e)

theorem told_eq (hhalves : ∀ h, ¬ NamesHalves s h) (f : Field) :
    f.told s = problem? (f.checked s) := by
  unfold Field.told
  cases hsettings : ofSettings s with
  | ok c =>
    rw [outcome_build_of_ok hsettings, ofSettings_eq_ok_iff_checked.mp hsettings f]
    rfl
  | error problems =>
    rw [outcome_build_of_error hsettings, faultOf_of_not_namesHalves hhalves hsettings,
      problems_eq_flatMap hsettings]
    exact Field.filter_problems f s

theorem told_of_offence (hhalves : ∀ h, ¬ NamesHalves s h) {f : Field} {p : Problem}
    (hp : f.Offence s p) : f.told s = [p] := by
  rw [told_eq hhalves, Field.checked_eq_error_iff.mpr hp]
  rfl

theorem told_of_no_offence (hhalves : ∀ h, ¬ NamesHalves s h) {f : Field}
    (hf : ∀ p, ¬ f.Offence s p) : f.told s = [] := by
  rw [told_eq hhalves]
  cases hchecked : f.checked s with
  | ok v => rfl
  | error p => exact absurd (Field.checked_eq_error_iff.mp hchecked) (hf p)

def offenders (s : Settings) : List Field := Field.all.filter fun f => !(f.checked s).isOk

theorem mem_offenders {f : Field} : f ∈ offenders s ↔ ∃ p, f.Offence s p := by
  simp only [offenders, List.mem_filter, Field.mem_all, true_and, ← Field.checked_eq_error_iff]
  cases f.checked s <;> simp [Except.isOk, Except.toBool]

theorem forall₂_problems (s : Settings) (fields : List Field) :
    List.Forall₂ (fun f p => f.Offence s p) (fields.filter fun f => !(f.checked s).isOk)
      (fields.flatMap fun f => problem? (f.checked s)) := by
  induction fields with
  | nil => exact .nil
  | cons f rest ih =>
    cases hf : f.checked s with
    | ok v => simpa [hf, problem?, Except.isOk, Except.toBool] using ih
    | error p =>
      have hp : f.Offence s p := Field.checked_eq_error_iff.mp hf
      simpa [hf, problem?, Except.isOk, Except.toBool] using ⟨hp, ih⟩

theorem problems_ne_nil {problems : List Problem} (h : ofSettings s = .error problems) :
    problems ≠ [] := by
  intro hnil
  have hnone : ∀ f : Field, ∃ v, f.checked s = .ok v := by
    intro f
    cases hf : f.checked s with
    | ok v => exact ⟨v, rfl⟩
    | error p =>
      have hmem : p ∈ problems := by
        rw [problems_eq_flatMap h]
        exact List.mem_flatMap.mpr ⟨f, f.mem_all, by simp [hf, problem?]⟩
      rw [hnil] at hmem
      cases hmem
  choose v hv using hnone
  have hok : ofSettings s = .ok ⟨v .schemaDir, v .outputDir, v .packageName, v .excludeFiles⟩ :=
    ofSettings_eq_ok_iff_checked.mpr fun f => by cases f <;> exact hv _
  cases h.symm.trans hok

theorem NamesHalves.unique {h h' : Wide.Halves} (hs : NamesHalves s h) (hs' : NamesHalves s h') :
    h = h' := by
  obtain ⟨key, name, hfind, hname⟩ := hs
  obtain ⟨key', name', hfind', hname'⟩ := hs'
  rw [hfind] at hfind'
  cases hfind'
  exact Except.error.inj (hname.symm.trans hname')

theorem NamesHalves.offence {h : Wide.Halves} (hs : NamesHalves s h) :
    ∃ p, Field.packageName.Offence s p ∧ p.reason = .halvesInPackageName h := by
  obtain ⟨key, name, hfind, hname⟩ := hs
  exact ⟨_, .wrong (FieldKeys.find?_eq_some_iff.mp hfind)
    (.halves (.text name) (Wide.stripsTo_trim name) hname), rfl⟩

theorem NamesHalves.outcome_build {h : Wide.Halves} (hs : NamesHalves s h) :
    (build s).outcome = .error (.halves (h.after (notPackageNameLead.length + 1))) := by
  obtain ⟨p, hoffence, hreason⟩ := hs.offence
  obtain ⟨problems, hsettings, hmem⟩ :=
    exists_problems (.inr (.inr (.inl (Field.checked_eq_error_iff.mpr hoffence))))
  rw [outcome_build_of_error hsettings]
  rcases faultOf_of_ofSettings hsettings with htold | ⟨e, he, hfault⟩
  · unfold faultOf at htold
    split at htold
    · cases htold
    · rename_i hnone
      have hhalves := List.findSome?_eq_none_iff.mp hnone p hmem
      rw [hreason] at hhalves
      cases hhalves
  · rw [hfault, hs.unique he]

/-- Settings without halves in the package name make a configuration or are told to have the
problems of their fields: one for each field that has one, in the order of the fields. A missing
field is told by its first key and a wrong one by the key that it is given under; a field that is
all right is not told of, and what is told of a field is told by what is given for it. Halves in
the package name are a fault of their own, which is not told in this way. -/
theorem problems_of_settings (s : Settings) :
    (∀ h, NamesHalves s h →
      (build s).outcome = .error (.halves (h.after (notPackageNameLead.length + 1)))) ∧
    ((∀ h, ¬ NamesHalves s h) →
      ((∃ c, (build s).outcome = .ok c ∧ (∀ f p, ¬ Field.Offence f s p) ∧
          Dotted AdmittedSegment c.packageName ∧ NormalNames c.excludeFiles) ∨
        ∃ (problems : List Problem) (fields : List Field),
          (build s).outcome = .error (.configuration problems) ∧ problems ≠ [] ∧
          (Fault.configuration problems).message = "; ".intercalate (problems.map (·.message)) ∧
          fields.Sublist Field.all ∧ (∀ f, f ∈ fields ↔ ∃ p, Field.Offence f s p) ∧
          List.Forall₂ (fun f p => Field.Offence f s p) fields problems) ∧
      (∀ f p, Field.Offence f s p → f.told s = [p] ∧
        (f.Absent s ∧ p.message = "Missing required parameter: " ++ f.keys.key ∨
          ∃ key v r, f.Given s key v ∧ f.Wrong v r ∧ p.message = key ++ ": " ++ r.text)) ∧
      (∀ f : Field, (∀ p, ¬ f.Offence s p) → f.told s = []) ∧
      ∀ (s' : Settings) (f : Field), (∀ h, ¬ NamesHalves s' h) →
        f.keys.find? s = f.keys.find? s' → f.told s = f.told s') := by
  refine ⟨fun h hs => hs.outcome_build, fun hhalves => ⟨?_, fun f p hp =>
    ⟨told_of_offence hhalves hp, hp.message⟩, fun f hf => told_of_no_offence hhalves hf, ?_⟩⟩
  · cases hsettings : ofSettings s with
    | ok c =>
      have hvalues := ofSettings_eq_ok_iff_checked.mp hsettings
      refine .inl ⟨c, outcome_build_of_ok hsettings, fun f p hp => ?_,
        isPackageName_iff_dotted.mp (isPackageName_of_ofSettings hsettings),
        normalNames_of_excludeFilesOf (ofSettings_eq_ok_iff.mp hsettings).2.2.2⟩
      cases (hvalues f).symm.trans (Field.checked_eq_error_iff.mpr hp)
    | error problems =>
      have hone := forall₂_problems s Field.all
      rw [← problems_eq_flatMap hsettings] at hone
      refine .inr ⟨problems, offenders s, ?_, problems_ne_nil hsettings, rfl,
        List.filter_sublist, fun _ => mem_offenders, hone⟩
      rw [outcome_build_of_error hsettings, faultOf_of_not_namesHalves hhalves hsettings]
  · intro s' f hhalves' hfind
    rw [told_eq hhalves, told_eq hhalves', Field.checked_congr hfind]

def offendingSettings : Settings :=
  [("schema_dir", .ofText " "), ("packageName", .value (.int 5)),
    ("excludeFiles", .value (.list [.text (.ofString "a.graphqls")]))]

theorem problems_offendingSettings :
    (∀ h, ¬ NamesHalves offendingSettings h) ∧
    (build offendingSettings).outcome = .error (.configuration
      [⟨"schema_dir", .blankPath⟩, ⟨"outputDir", .missing⟩, ⟨"packageName", .notText⟩]) ∧
    Field.schemaDir.told offendingSettings = [⟨"schema_dir", .blankPath⟩] ∧
    Field.outputDir.told offendingSettings = [⟨"outputDir", .missing⟩] ∧
    Field.excludeFiles.told offendingSettings = [] := by
  have hhalves : ∀ h, ¬ NamesHalves offendingSettings h := by
    rintro h ⟨key, name, hfind, -⟩
    have hgiven : packageNameKeys.find? offendingSettings =
        some ("packageName", .value (.int 5)) := rfl
    rw [hgiven] at hfind
    cases hfind
  have htold := (problems_of_settings offendingSettings).2 hhalves
  have hnames : Field.excludeFiles.checked offendingSettings = .ok [.ofString "a.graphqls"] := by
    cbv
  refine ⟨hhalves, by cbv, ?_, ?_, ?_⟩
  · exact (htold.2.1 .schemaDir _ (.wrong ⟨rfl, .inr ⟨rfl, rfl⟩⟩ (.blank (by decide)))).1
  · exact (htold.2.1 .outputDir _ (.missing rfl ⟨rfl, rfl⟩)).1
  · refine htold.2.2.1 .excludeFiles fun p hp => ?_
    cases hnames.symm.trans (Field.checked_eq_error_iff.mpr hp)

def halfSettings : Settings := [("packageName", .value (.text [.half 0]))]

/-- Halves in a package name keep even the fields that are missing from being told. -/
theorem problems_untold :
    Field.schemaDir.Offence halfSettings ⟨"schemaDir", .missing⟩ ∧
    Field.outputDir.Offence halfSettings ⟨"outputDir", .missing⟩ ∧
    (∃ p, Field.packageName.Offence halfSettings p) ∧
    ¬ ((∃ c, (build halfSettings).outcome = .ok c) ∨
      ∃ problems, (build halfSettings).outcome = .error (.configuration problems)) := by
  have hhalves : NamesHalves halfSettings ⟨0, [.half 0]⟩ := ⟨"packageName", _, rfl, rfl⟩
  refine ⟨.missing rfl ⟨rfl, rfl⟩, .missing rfl ⟨rfl, rfl⟩,
    hhalves.offence.imp fun _ => And.left, ?_⟩
  rw [hhalves.outcome_build]
  rintro (⟨c, hc⟩ | ⟨problems, hproblems⟩)
  · cases hc
  · cases hproblems

end SchemaToJava.Config
