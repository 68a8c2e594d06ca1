import Mathlib
import SchemaToJava.Proofs.Config.Setting
import SchemaToJava.Proofs.FirstOccurrence
import SchemaToJava.Proofs.Text.Wide

/-!
The names of files to leave out. A configuration holds them in a normal form, which settings made
from the configuration come to again; a text with commas stands for the list of what is between
them.
-/

namespace SchemaToJava.Config

open Text

/-- The names of files to leave out as a configuration holds them: at least one, none of them blank
or with blanks around it, each once and in order. -/
structure NormalNames (names : List Wide) : Prop where
  nonempty : names ≠ []
  nonblank : ∀ n ∈ names, n.isBlank = false
  trimmed : ∀ n ∈ names, n.Trimmed
  distinct : names.Nodup
  sorted : names.Pairwise fun m n => Wide.le m n = true

/-- The trimmed names that are not blank, each once and in the order in which they are given. -/
def keptNames (names : List Wide) : List Wide :=
  ((names.map Wide.trim).filter (!·.isEmpty)).eraseDups

theorem nameSet_eq (names : List Wide) : nameSet names =
    if (keptNames names).isEmpty then defaultExcludeFiles
    else (keptNames names).mergeSort Wide.le := rfl

theorem mem_keptNames {names : List Wide} {n : Wide} :
    n ∈ keptNames names ↔ n.isBlank = false ∧ ∃ m ∈ names, m.StripsTo n := by
  simp only [keptNames, List.mem_eraseDups, List.mem_filter, List.mem_map, Wide.stripsTo_iff,
    Bool.not_eq_true', List.isEmpty_eq_false_iff]
  constructor
  · rintro ⟨⟨m, hm, rfl⟩, hne⟩
    exact ⟨(Wide.trimmed_trim m).isBlank_eq hne, m, hm, rfl⟩
  · rintro ⟨hblank, m, hm, rfl⟩
    refine ⟨⟨m, hm, rfl⟩, ?_⟩
    intro hnil
    rw [hnil] at hblank
    cases hblank

theorem keptNames_eq_nil_iff {names : List Wide} :
    keptNames names = [] ↔ ∀ n ∈ names, n.isBlank = true := by
  simp only [List.eq_nil_iff_forall_not_mem, mem_keptNames, not_and, not_exists]
  constructor
  · intro h n hn
    have hstrips := Wide.stripsTo_trim n
    by_contra hblank
    exact h _ (hstrips.isBlank_eq.trans (Bool.eq_false_iff.mpr hblank)) n hn hstrips
  · intro h n hblank m hm hstrips
    rw [hstrips.isBlank_eq, h m hm] at hblank
    cases hblank

theorem nameSet_of_blank {names : List Wide} (h : ∀ n ∈ names, n.isBlank = true) :
    nameSet names = defaultExcludeFiles := by
  rw [nameSet_eq, keptNames_eq_nil_iff.mpr h]
  rfl

theorem mem_nameSet {names : List Wide} (h : ∃ n ∈ names, n.isBlank = false) {n : Wide} :
    n ∈ nameSet names ↔ n.isBlank = false ∧ ∃ m ∈ names, m.StripsTo n := by
  have hne : ¬ (keptNames names).isEmpty = true := by
    rw [List.isEmpty_iff, keptNames_eq_nil_iff]
    obtain ⟨m, hm, hblank⟩ := h
    exact fun hall => Bool.eq_false_iff.mp hblank (hall m hm)
  rw [nameSet_eq, if_neg hne, List.mem_mergeSort, mem_keptNames]

theorem normalNames_default : NormalNames defaultExcludeFiles where
  nonempty := by simp [defaultExcludeFiles]
  nonblank := by decide
  trimmed := by
    have htrim : Wide.trim (.ofString bootstrapFile) = .ofString bootstrapFile := by decide
    simpa [defaultExcludeFiles] using htrim ▸ Wide.trimmed_trim (.ofString bootstrapFile)
  distinct := by simp [defaultExcludeFiles]
  sorted := by simp [defaultExcludeFiles]

theorem pairwise_mergeSort_le (names : List Wide) :
    (names.mergeSort Wide.le).Pairwise fun m n => Wide.le m n = true :=
  @List.pairwise_mergeSort _ Wide.le (fun _ _ _ => Wide.le_trans) Wide.le_total names

theorem normalNames_nameSet (names : List Wide) : NormalNames (nameSet names) := by
  rw [nameSet_eq]
  split
  · exact normalNames_default
  · rename_i hne
    have hperm := List.mergeSort_perm (keptNames names) Wide.le
    have hkept : ∀ n ∈ (keptNames names).mergeSort Wide.le,
        n.isBlank = false ∧ ∃ m ∈ names, m.StripsTo n := fun n hn =>
      mem_keptNames.mp (hperm.mem_iff.mp hn)
    refine ⟨?_, fun n hn => (hkept n hn).1, fun n hn => ?_, ?_, ?_⟩
    · exact fun hnil => hne (List.isEmpty_iff.mpr (List.nil_perm.mp (hnil ▸ hperm)))
    · obtain ⟨-, m, -, hm⟩ := hkept n hn
      exact hm.trimmed
    · exact hperm.nodup_iff.mpr (nodup_eraseDups _)
    · exact pairwise_mergeSort_le _

/-- A list in normal form is what is left of every list that keeps the same names. -/
theorem NormalNames.nameSet_eq_of_kept {names given : List Wide} (h : NormalNames names)
    (hkept : ∀ n, n ∈ keptNames given ↔ n ∈ names) : nameSet given = names := by
  have hperm : ((keptNames given).mergeSort Wide.le).Perm names :=
    (List.mergeSort_perm _ _).trans
      ((List.perm_ext_iff_of_nodup (nodup_eraseDups _) h.distinct).mpr hkept)
  have hne : ¬ (keptNames given).isEmpty = true := by
    intro hempty
    obtain ⟨n, hn⟩ := List.exists_mem_of_ne_nil _ h.nonempty
    rw [← hkept, List.isEmpty_iff.mp hempty] at hn
    cases hn
  calc nameSet given
      = (keptNames given).mergeSort Wide.le := by rw [nameSet_eq, if_neg hne]
    _ = names := hperm.eq_of_pairwise (fun _ _ _ _ => Wide.le_antisymm)
        (pairwise_mergeSort_le _) h.sorted

theorem NormalNames.nameSet_eq_self {names given : List Wide} (h : NormalNames names)
    (hgiven : ∀ n, n ∈ given ↔ n ∈ names) : nameSet given = names := by
  refine h.nameSet_eq_of_kept fun n => ?_
  rw [mem_keptNames]
  constructor
  · rintro ⟨-, m, hm, hstrips⟩
    have hmem := (hgiven m).mp hm
    rw [Wide.stripsTo_iff, (h.trimmed m hmem).trim_eq] at hstrips
    exact hstrips ▸ hmem
  · intro hn
    exact ⟨h.nonblank n hn, n, (hgiven n).mpr hn, Wide.stripsTo_iff.mpr (h.trimmed n hn).trim_eq⟩

theorem normalNames_of_namesOf {items : List Yaml.Value} {names : List Wide}
    (h : namesOf items = .ok names) : NormalNames names := by
  unfold namesOf at h
  split at h
  · cases h
    exact normalNames_nameSet _
  · cases h

theorem normalNames_of_checkNames {v : Setting} {names : List Wide}
    (h : checkNames v = .ok names) : NormalNames names := by
  unfold checkNames at h
  split at h
  · cases h
    exact normalNames_default
  · cases h
    exact normalNames_nameSet _
  · exact normalNames_of_namesOf h
  · exact normalNames_of_namesOf h
  · exact normalNames_of_namesOf h
  · exact normalNames_of_namesOf h
  · cases h

theorem normalNames_of_excludeFilesOf {s : Settings} {names : List Wide}
    (h : excludeFilesOf s = .ok names) : NormalNames names := by
  unfold excludeFilesOf at h
  split at h
  · cases h
    exact normalNames_default
  · rename_i key v _
    cases hv : checkNames v with
    | error r =>
      rw [hv] at h
      cases h
    | ok other =>
      rw [hv] at h
      cases h
      exact normalNames_of_checkNames hv

theorem excludeFilesOf_of_find? {s : Settings} {key : String} {v : Setting} {names : List Wide}
    (hfind : excludeFilesKeys.find? s = some (key, v)) (hv : checkNames v = .ok names) :
    excludeFilesOf s = .ok names := by
  unfold excludeFilesOf
  rw [hfind]
  simp only [hv]
  rfl

def settings (c : Config) (names : List Wide) : Settings :=
  [("schemaDir", .path c.schemaDir), ("outputDir", .path c.outputDir),
    ("packageName", .ofText c.packageName), ("excludeFiles", .value (.list (names.map .text)))]

theorem namesOf_texts (names : List Wide) :
    namesOf (names.map .text) = .ok (nameSet names) := by
  have hshowable : (names.map Yaml.Value.text).all (·.isShowable) = true := by
    simp [Yaml.Value.isShowable]
  rw [namesOf, if_pos hshowable, List.map_map]
  have hshown : Yaml.Value.shown ∘ Yaml.Value.text = id := rfl
  rw [hshown, List.map_id]

theorem checkPackageName_of_ok {v : Setting} {p : String} (h : checkPackageName v = .ok p) :
    checkPackageName (.ofText p) = .ok p := by
  obtain ⟨t, ht⟩ := exists_packageNameOf h
  obtain ⟨htrim, hpackage⟩ := packageNameOf_eq_ok_iff.mp ht
  have htrimmed : (Wide.ofString p).Trimmed := htrim ▸ Wide.trimmed_trim t
  exact packageNameOf_eq_ok_iff.mpr ⟨htrimmed.trim_eq, hpackage⟩

/-- A configuration is what the settings make that it is written down as, however its names to leave
out are listed. -/
theorem ofSettings_settings {s : Settings} {c : Config} (h : ofSettings s = .ok c)
    {names : List Wide} (hnames : ∀ n, n ∈ names ↔ n ∈ c.excludeFiles) :
    ofSettings (c.settings names) = .ok c := by
  obtain ⟨-, -, hpackage, hexclude⟩ := ofSettings_eq_ok_iff.mp h
  obtain ⟨_, v, -, hv⟩ := required_eq_ok_iff.mp hpackage
  have hnormal := normalNames_of_excludeFilesOf hexclude
  refine ofSettings_eq_ok_iff.mpr ⟨rfl, rfl, ?_, ?_⟩
  · exact required_eq_ok_iff.mpr ⟨"packageName", _, rfl, checkPackageName_of_ok hv⟩
  · refine excludeFilesOf_of_find? rfl ?_
    rw [checkNames, namesOf_texts, hnormal.nameSet_eq_self hnames]

/-- A name without commas, and the blanks around it in a text. -/
structure PaddedName where
  before : Wide
  name : Wide
  after : Wide
  before_blank : before.isBlank = true
  after_blank : after.isBlank = true
  comma_not_mem : .char ',' ∉ name

namespace PaddedName

def text (n : PaddedName) : Wide := n.before ++ n.name ++ n.after

theorem comma_not_mem_text (n : PaddedName) : .char ',' ∉ n.text := by
  have hblank : ∀ {t : Wide}, t.isBlank = true → .char ',' ∉ t := fun ht hmem =>
    absurd (Wide.forall_blank ht _ hmem) (by decide)
  simp only [text, List.mem_append, not_or]
  exact ⟨⟨hblank n.before_blank, n.comma_not_mem⟩, hblank n.after_blank⟩

theorem trim_text (n : PaddedName) : Wide.trim n.text = Wide.trim n.name :=
  Wide.trim_append_blanks n.before_blank n.after_blank n.name

end PaddedName

def listed (items : List PaddedName) : Setting := .value (.list (items.map fun n => .text n.name))

def joined (items : List PaddedName) : Setting :=
  .value (.text ([.char ','].intercalate (items.map (·.text))))

section Items

variable (items : List PaddedName)

theorem checkNames_listed : checkNames (listed items) = .ok (nameSet (items.map (·.name))) := by
  have hvalues : items.map (fun n => Yaml.Value.text n.name) = (items.map (·.name)).map .text := by
    rw [List.map_map]
    rfl
  rw [listed, checkNames, hvalues, namesOf_texts]

theorem checkNames_joined : checkNames (joined items) = .ok (nameSet (items.map (·.name))) := by
  have htrim : (items.map (·.text)).map Wide.trim = (items.map (·.name)).map Wide.trim := by
    rw [List.map_map, List.map_map]
    exact List.map_congr_left fun n _ => n.trim_text
  by_cases hnil : items = []
  · rw [hnil]
    rfl
  · have hsplit : List.splitOn (.char ',') ([.char ','].intercalate (items.map (·.text))) =
        items.map (·.text) := by
      refine List.splitOn_intercalate _ (fun t ht => ?_) (by simpa using hnil)
      obtain ⟨n, -, rfl⟩ := List.mem_map.mp ht
      exact n.comma_not_mem_text
    rw [joined, checkNames, hsplit, nameSet, htrim]
    rfl

end Items

theorem find?_put_excludeFiles {k : FieldKeys} (hkey : k.key ≠ "excludeFiles")
    (hother : k.otherKey ≠ "excludeFiles") (s : Settings) (v : Setting) :
    k.find? (s.put "excludeFiles" v) = k.find? s := by
  simp only [FieldKeys.find?, Entries.lookup_put, if_neg hkey, if_neg hother]

theorem required_put_excludeFiles {α : Type} {k : FieldKeys} {check : Setting → Except Reason α}
    (hkey : k.key ≠ "excludeFiles") (hother : k.otherKey ≠ "excludeFiles") (s : Settings)
    (v : Setting) : required k check (s.put "excludeFiles" v) = required k check s := by
  rw [required, find?_put_excludeFiles hkey hother, required]

theorem excludeFilesOf_put {s : Settings} {v : Setting} {names : List Wide}
    (hv : checkNames v = .ok names) : excludeFilesOf (s.put "excludeFiles" v) = .ok names :=
  have hfind : excludeFilesKeys.find? (s.put "excludeFiles" v) = some ("excludeFiles", v) := by
    simp [FieldKeys.find?, excludeFilesKeys, Entries.lookup_put]
  excludeFilesOf_of_find? hfind hv

theorem ofSettings_put_congr (s : Settings) {v w : Setting} {names : List Wide}
    (hv : checkNames v = .ok names) (hw : checkNames w = .ok names) :
    ofSettings (s.put "excludeFiles" v) = ofSettings (s.put "excludeFiles" w) := by
  have hrequired : ∀ {α : Type} {k : FieldKeys} {check : Setting → Except Reason α},
      k.key ≠ "excludeFiles" → k.otherKey ≠ "excludeFiles" →
      required k check (s.put "excludeFiles" v) = required k check (s.put "excludeFiles" w) :=
    fun hkey hother => (required_put_excludeFiles hkey hother s v).trans
      (required_put_excludeFiles hkey hother s w).symm
  exact ofSettings_congr (hrequired (by decide) (by decide)) (hrequired (by decide) (by decide))
    (hrequired (by decide) (by decide)) ((excludeFilesOf_put hv).trans (excludeFilesOf_put hw).symm)

/-- The names that a configuration leaves out are at least one, none of them blank or with blanks
around it, and a configuration is what the settings make that it is written down as. Names without
commas count the same in a list and in a text with commas, whatever blanks are around them there:
those that are not blank are left out, without their blanks, or the default if there are none. -/
theorem excludeFiles_of_settings :
    (∀ s c, ofSettings s = .ok c →
      c.excludeFiles ≠ [] ∧ (∀ n ∈ c.excludeFiles, n.isBlank = false ∧ n.Trimmed) ∧
      ∀ names, (∀ n, n ∈ names ↔ n ∈ c.excludeFiles) → ofSettings (c.settings names) = .ok c) ∧
    ∀ items : List PaddedName, ∃ names,
      ((∀ n ∈ items, n.name.isBlank = true) → names = defaultExcludeFiles) ∧
      ((∃ n ∈ items, n.name.isBlank = false) →
        ∀ m, m ∈ names ↔ m.isBlank = false ∧ ∃ n ∈ items, n.name.StripsTo m) ∧
      checkNames (listed items) = .ok names ∧ checkNames (joined items) = .ok names ∧
      ∀ s : Settings, ofSettings (s.put "excludeFiles" (listed items)) =
        ofSettings (s.put "excludeFiles" (joined items)) ∧
        ∀ c, ofSettings (s.put "excludeFiles" (listed items)) = .ok c → c.excludeFiles = names := by
  refine ⟨fun s c h => ?_, fun items => ?_⟩
  · have hnormal := normalNames_of_excludeFilesOf (ofSettings_eq_ok_iff.mp h).2.2.2
    refine ⟨hnormal.nonempty, fun n hn => ⟨hnormal.nonblank n hn, hnormal.trimmed n hn⟩, ?_⟩
    exact fun names hnames => ofSettings_settings h hnames
  · have hlisted := checkNames_listed items
    have hjoined := checkNames_joined items
    refine ⟨nameSet (items.map (·.name)), fun hblank => ?_, fun hsome m => ?_, hlisted, hjoined,
      fun s => ⟨ofSettings_put_congr s hlisted hjoined, fun c hc => ?_⟩⟩
    · exact nameSet_of_blank (by simpa using hblank)
    · rw [mem_nameSet (by simpa using hsome)]
      simp
    · have hexclude := (ofSettings_eq_ok_iff.mp hc).2.2.2
      rw [excludeFilesOf_put hlisted] at hexclude
      exact (Except.ok.inj hexclude).symm

def paddedNames : List PaddedName :=
  [⟨.ofString " ", .ofString "b.graphqls", [], by decide, by decide, by decide⟩,
    ⟨[], .ofString " ", [], by decide, by decide, by decide⟩,
    ⟨.ofString "\n", .ofString "a.graphqls ", [], by decide, by decide, by decide⟩]

def paddedSettings : Settings := .ofTexts [("schemaDir", "s"), ("outputDir", "o"),
  ("packageName", "p"), ("excludeFiles", " b.graphqls, ,\na.graphqls ")]

def paddedConfig : Config :=
  ⟨⟨.working, ["s"]⟩, ⟨.working, ["o"]⟩, "p", [.ofString "a.graphqls", .ofString "b.graphqls"]⟩

theorem excludeFiles_paddedNames :
    ofSettings paddedSettings = .ok paddedConfig ∧
    ofSettings (paddedConfig.settings [.ofString "b.graphqls", .ofString "a.graphqls"]) =
      .ok paddedConfig ∧
    paddedSettings.put "excludeFiles" (joined paddedNames) = paddedSettings ∧
    ofSettings (paddedSettings.put "excludeFiles" (listed paddedNames)) = .ok paddedConfig ∧
    ∀ m, m ∈ paddedConfig.excludeFiles ↔
      m.isBlank = false ∧ ∃ n ∈ paddedNames, n.name.StripsTo m := by
  have hconfig : ofSettings paddedSettings = .ok paddedConfig := by cbv
  have hjoined : paddedSettings.put "excludeFiles" (joined paddedNames) = paddedSettings := rfl
  obtain ⟨names, -, hmem, -, -, hput⟩ := excludeFiles_of_settings.2 paddedNames
  obtain ⟨hsame, hnames⟩ := hput paddedSettings
  have hlisted : ofSettings (paddedSettings.put "excludeFiles" (listed paddedNames)) =
      .ok paddedConfig := by
    rw [hsame, hjoined, hconfig]
  refine ⟨hconfig, ?_, hjoined, hlisted, ?_⟩
  · refine (excludeFiles_of_settings.1 _ _ hconfig).2.2 _ fun n => ?_
    simp [paddedConfig, or_comm]
  · rw [hnames _ hlisted]
    exact hmem ⟨_, List.mem_cons_self, by decide⟩

end SchemaToJava.Config
