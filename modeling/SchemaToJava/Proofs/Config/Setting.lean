import SchemaToJava.Config.Arguments
import SchemaToJava.Proofs.Outcome

/-!
What is known of a configuration that settings make.
-/

namespace SchemaToJava.Config

open Java Text

theorem packageNameOf_eq_ok_iff {t : Wide} {p : String} :
    packageNameOf t = .ok p ↔ Wide.trim t = .ofString p ∧ isPackageName p = true := by
  rw [← Wide.ordinary_eq_ok_iff]
  unfold packageNameOf
  cases Wide.ordinary (Wide.trim t) with
  | error h => simp
  | ok s =>
    by_cases hs : isPackageName s = true
    · simp only [hs, if_true, Except.ok.injEq]
      exact ⟨fun h => ⟨h, h ▸ hs⟩, fun h => h.1⟩
    · simp only [hs, if_false, Except.ok.injEq, reduceCtorEq, false_iff]
      rintro ⟨rfl, hp⟩
      exact hs hp

theorem exists_packageNameOf {v : Setting} {p : String} (h : checkPackageName v = .ok p) :
    ∃ t, packageNameOf t = .ok p := by
  unfold checkPackageName at h
  split at h
  · exact ⟨_, h⟩
  · split at h
    · exact ⟨_, h⟩
    · cases h
  · cases h

theorem isPackageName_of_checkPackageName {v : Setting} {p : String}
    (h : checkPackageName v = .ok p) : isPackageName p = true := by
  obtain ⟨t, ht⟩ := exists_packageNameOf h
  exact (packageNameOf_eq_ok_iff.mp ht).2

theorem checkPath_ofText (s : String) : checkPath (.ofText s) =
    if isBlankText s then .error .blankPath else .ok (.ofText s) := by
  simp [checkPath, Setting.ofText]

theorem checkPackageName_ofText (s : String) : checkPackageName (.ofText s) =
    if isPackageName (trim s) then .ok (trim s) else .error (.notPackageName (trim s)) := by
  simp [checkPackageName, Setting.ofText, packageNameOf]

theorem required_eq_ok_iff {α : Type} {k : FieldKeys} {check : Setting → Except Reason α}
    {s : Settings} {a : α} :
    required k check s = .ok a ↔ ∃ key v, k.find? s = some (key, v) ∧ check v = .ok a := by
  unfold required
  cases k.find? s with
  | none => simp
  | some e =>
    obtain ⟨key, v⟩ := e
    cases hv : check v <;> simp [hv, Except.mapError]

theorem ofSettings_eq_ok_iff {s : Settings} {c : Config} :
    ofSettings s = .ok c ↔
      required schemaDirKeys checkPath s = .ok c.schemaDir ∧
      required outputDirKeys checkPath s = .ok c.outputDir ∧
      required packageNameKeys checkPackageName s = .ok c.packageName ∧
      excludeFilesOf s = .ok c.excludeFiles := by
  unfold ofSettings
  simp only
  constructor
  · intro h
    split at h
    · rename_i hschema houtput hpackage hexclude
      cases h
      exact ⟨hschema, houtput, hpackage, hexclude⟩
    · cases h
  · rintro ⟨hschema, houtput, hpackage, hexclude⟩
    rw [hschema, houtput, hpackage, hexclude]

theorem isPackageName_of_ofSettings {s : Settings} {c : Config} (h : ofSettings s = .ok c) :
    isPackageName c.packageName = true := by
  obtain ⟨_, v, -, hv⟩ := required_eq_ok_iff.mp (ofSettings_eq_ok_iff.mp h).2.2.1
  exact isPackageName_of_checkPackageName hv

theorem ofSettings_congr {s s' : Settings}
    (hschema : required schemaDirKeys checkPath s = required schemaDirKeys checkPath s')
    (houtput : required outputDirKeys checkPath s = required outputDirKeys checkPath s')
    (hpackage : required packageNameKeys checkPackageName s =
      required packageNameKeys checkPackageName s')
    (hexclude : excludeFilesOf s = excludeFilesOf s') : ofSettings s = ofSettings s' := by
  simp only [ofSettings, hschema, houtput, hpackage, hexclude]

/-- The package name that settings give has surrogate halves, of which the first are `h`. -/
def NamesHalves (s : Settings) (h : Wide.Halves) : Prop :=
  ∃ key name, packageNameKeys.find? s = some (key, .value (.text name)) ∧
    Wide.ordinary (Wide.trim name) = .error h

theorem halves_of_checkPath {v : Setting} {r : Reason} (h : checkPath v = .error r) :
    r.halves? = none := by
  unfold checkPath at h
  split at h
  · cases h
  · split at h <;> cases h
    rfl
  · cases h
    rfl

theorem halves_of_namesOf {items : List Yaml.Value} {r : Reason} (h : namesOf items = .error r) :
    r.halves? = none := by
  unfold namesOf at h
  split at h <;> cases h
  rfl

theorem halves_of_checkNames {v : Setting} {r : Reason} (h : checkNames v = .error r) :
    r.halves? = none := by
  unfold checkNames at h
  split at h
  · cases h
  · cases h
  · exact halves_of_namesOf h
  · exact halves_of_namesOf h
  · exact halves_of_namesOf h
  · exact halves_of_namesOf h
  · cases h
    rfl

theorem packageNameOf_eq_error {t : Wide} {r : Reason} (h : packageNameOf t = .error r) :
    r.halves? = none ∨
      ∃ h, Wide.ordinary (Wide.trim t) = .error h ∧ r = .halvesInPackageName h := by
  unfold packageNameOf at h
  split at h
  · split at h <;> cases h
    exact .inl rfl
  · rename_i e he
    cases h
    exact .inr ⟨e, he, rfl⟩

theorem ordinary_trim_ofChars (cs : List Char) :
    Wide.ordinary (Wide.trim (.ofChars cs)) = .ok (String.ofList (trimChars cs)) :=
  Wide.ordinary_eq_ok_iff.mpr (by simp [Wide.ofString])

/-- Bytes have no halves, so only a text brings them in. -/
theorem checkPackageName_eq_error {v : Setting} {r : Reason} (h : checkPackageName v = .error r) :
    r.halves? = none ∨ ∃ t h, v = .value (.text t) ∧ Wide.ordinary (Wide.trim t) = .error h ∧
      r = .halvesInPackageName h := by
  unfold checkPackageName at h
  split at h
  · rename_i t
    exact (packageNameOf_eq_error h).imp_right fun ⟨e, he, hr⟩ => ⟨t, e, rfl, he, hr⟩
  · split at h
    · rename_i cs _
      refine (packageNameOf_eq_error h).imp_right ?_
      rintro ⟨e, he, -⟩
      rw [ordinary_trim_ofChars] at he
      cases he
    · cases h
      exact .inl rfl
  · cases h
    exact .inl rfl

theorem required_eq_error_iff {α : Type} {k : FieldKeys} {check : Setting → Except Reason α}
    {s : Settings} {p : Problem} :
    required k check s = .error p ↔ k.find? s = none ∧ p = ⟨k.key, .missing⟩ ∨
      ∃ key v r, k.find? s = some (key, v) ∧ check v = .error r ∧ p = ⟨key, r⟩ := by
  unfold required
  cases k.find? s with
  | none => simp [@eq_comm _ p]
  | some e =>
    obtain ⟨key, v⟩ := e
    cases hv : check v <;> simp [hv, Except.mapError, @eq_comm _ p]

theorem halves_of_required_path {k : FieldKeys} {s : Settings} {p : Problem}
    (h : required k checkPath s = .error p) : p.reason.halves? = none := by
  rcases required_eq_error_iff.mp h with ⟨-, rfl⟩ | ⟨key, v, r, -, hr, rfl⟩
  · rfl
  · exact halves_of_checkPath hr

theorem halves_of_excludeFilesOf {s : Settings} {p : Problem} (h : excludeFilesOf s = .error p) :
    p.reason.halves? = none := by
  unfold excludeFilesOf at h
  split at h
  · cases h
  · rename_i key v _
    cases hv : checkNames v with
    | ok names =>
      rw [hv] at h
      cases h
    | error r =>
      rw [hv] at h
      cases h
      exact halves_of_checkNames hv

theorem mem_problem? {α : Type} {x : Checked α} {p : Problem} (h : p ∈ problem? x) :
    x = .error p := by
  cases x with
  | ok a => cases h
  | error q =>
    cases List.mem_singleton.mp h
    rfl

theorem mem_problems {s : Settings} {problems : List Problem} (h : ofSettings s = .error problems)
    {p : Problem} (hp : p ∈ problems) :
    required schemaDirKeys checkPath s = .error p ∨ required outputDirKeys checkPath s = .error p ∨
      required packageNameKeys checkPackageName s = .error p ∨ excludeFilesOf s = .error p := by
  unfold ofSettings at h
  simp only at h
  split at h
  · cases h
  · cases h
    simp only [List.mem_append] at hp
    rcases hp with ((hp | hp) | hp) | hp
    · exact .inl (mem_problem? hp)
    · exact .inr (.inl (mem_problem? hp))
    · exact .inr (.inr (.inl (mem_problem? hp)))
    · exact .inr (.inr (.inr (mem_problem? hp)))

theorem exists_problems {s : Settings} {p : Problem}
    (h : required schemaDirKeys checkPath s = .error p ∨
      required outputDirKeys checkPath s = .error p ∨
      required packageNameKeys checkPackageName s = .error p ∨ excludeFilesOf s = .error p) :
    ∃ problems, ofSettings s = .error problems ∧ p ∈ problems := by
  cases hc : ofSettings s with
  | error problems =>
    refine ⟨problems, rfl, ?_⟩
    unfold ofSettings at hc
    simp only at hc
    split at hc
    · cases hc
    · cases hc
      simp only [List.mem_append]
      rcases h with h | h | h | h <;> simp [h, problem?]
  | ok c =>
    obtain ⟨hschema, houtput, hpackage, hexclude⟩ := ofSettings_eq_ok_iff.mp hc
    rcases h with h | h | h | h
    · cases h.symm.trans hschema
    · cases h.symm.trans houtput
    · cases h.symm.trans hpackage
    · cases h.symm.trans hexclude

/-- Settings that make no configuration are reported, unless the package name has halves. -/
theorem faultOf_of_ofSettings {s : Settings} {problems : List Problem}
    (h : ofSettings s = .error problems) : faultOf problems = .configuration problems ∨
      ∃ e, NamesHalves s e ∧
        faultOf problems = .halves (e.after (notPackageNameLead.length + 1)) := by
  unfold faultOf
  split
  · rename_i e he
    obtain ⟨p, hp, he⟩ := List.exists_of_findSome?_eq_some he
    right
    rcases mem_problems h hp with hp | hp | hp | hp
    · rw [halves_of_required_path hp] at he
      cases he
    · rw [halves_of_required_path hp] at he
      cases he
    · rcases required_eq_error_iff.mp hp with ⟨-, rfl⟩ | ⟨key, v, r, hfind, hv, rfl⟩
      · cases he
      · dsimp only at he
        rcases checkPackageName_eq_error hv with hnone | ⟨name, e', rfl, hname, hreason⟩
        · rw [hnone] at he
          cases he
        · rw [hreason] at he
          cases he
          exact ⟨e', ⟨key, name, hfind, hname⟩, rfl⟩
    · rw [halves_of_excludeFilesOf hp] at he
      cases he
  · exact .inl rfl

end SchemaToJava.Config
