import SchemaToJava.Java.Source
import SchemaToJava.Proofs.FirstOccurrence

/-!
What stands between the parentheses of an annotation. Every name that members are given under is
written once, where it occurs first, with all values given for it; nothing else is written.
-/

namespace SchemaToJava.Java

/-- The values of one member name as they are written: after the name or without it, with braces
around them or not. -/
structure MemberGroup where
  name : String
  values : List String
  named : Bool
  braced : Bool
  deriving DecidableEq, Repr

def MemberGroup.text (g : MemberGroup) : String :=
  let label := if g.named then g.name ++ " = " else ""
  let values := ", ".intercalate g.values
  label ++ if g.braced then "\x7b" ++ values ++ "\x7d" else values

/-- What the groups of some members are. Their names are those of the members, each once and in the
order of first occurrences, and the values of a name are all that are given for it. -/
structure GroupedAs (ms : List Member) (gs : List MemberGroup) : Prop where
  distinct : (gs.map (·.name)).Nodup
  complete : ∀ n, n ∈ gs.map (·.name) ↔ n ∈ ms.map (·.name)
  ordered : (gs.map (·.name)).Pairwise fun m n =>
    (ms.map (·.name)).idxOf m < (ms.map (·.name)).idxOf n
  values : ∀ g ∈ gs, g.values = (ms.filter (·.name == g.name)).map (·.value)
  named : ∀ g ∈ gs, g.named = false ↔ ∀ m ∈ ms, m.name = "value"
  braced : ∀ g ∈ gs, g.braced = true ↔ 2 ≤ g.values.length

def memberGroups (ms : List Member) : List MemberGroup :=
  (groupedMembers ms).map fun (n, vs) =>
    ⟨n, vs, !ms.all (·.name == "value"), decide (2 ≤ vs.length)⟩

section Groups

variable {ms : List Member} {gs hs : List MemberGroup}

theorem names_memberGroups (ms : List Member) :
    (memberGroups ms).map (·.name) = (ms.map (·.name)).eraseDups := by
  simp [memberGroups, groupedMembers, Function.comp_def]

theorem groupedAs_memberGroups (ms : List Member) : GroupedAs ms (memberGroups ms) where
  distinct := by
    rw [names_memberGroups]
    exact nodup_eraseDups _
  complete n := by rw [names_memberGroups, List.mem_eraseDups]
  ordered := by
    rw [names_memberGroups]
    exact pairwise_idxOf_eraseDups _
  values g hg := by
    simp only [memberGroups, groupedMembers, List.map_map, List.mem_map] at hg
    obtain ⟨n, -, rfl⟩ := hg
    rfl
  named g hg := by
    obtain ⟨_, -, rfl⟩ := List.mem_map.mp hg
    simp
  braced g hg := by
    obtain ⟨_, -, rfl⟩ := List.mem_map.mp hg
    simp

theorem GroupedAs.names_unique (hg : GroupedAs ms gs) (hh : GroupedAs ms hs) :
    gs.map (·.name) = hs.map (·.name) := by
  have hperm : (gs.map (·.name)).Perm (hs.map (·.name)) :=
    (List.perm_ext_iff_of_nodup hg.distinct hh.distinct).mpr fun n => by
      rw [hg.complete, hh.complete]
  exact hperm.eq_of_pairwise (fun _ _ _ _ hab hba => absurd hab (Nat.lt_asymm hba))
    hg.ordered hh.ordered

theorem GroupedAs.eq_of_name (hg : GroupedAs ms gs) (hh : GroupedAs ms hs) {g h : MemberGroup}
    (hmem : g ∈ gs) (hmem' : h ∈ hs) (hname : g.name = h.name) : g = h := by
  have hvalues : g.values = h.values := by rw [hg.values g hmem, hh.values h hmem', hname]
  have hnamed : g.named = h.named := by
    rw [← Bool.not_inj_iff, Bool.eq_iff_iff, Bool.not_eq_true', Bool.not_eq_true',
      hg.named g hmem, hh.named h hmem']
  have hbraced : g.braced = h.braced := by
    rw [Bool.eq_iff_iff, hg.braced g hmem, hh.braced h hmem', hvalues]
  cases g
  cases h
  simp_all

/-- Members have their groups in one way only. -/
theorem GroupedAs.unique (hg : GroupedAs ms gs) (hh : GroupedAs ms hs) : gs = hs := by
  have hnames := hg.names_unique hh
  have hlength : gs.length = hs.length := by simpa using congrArg List.length hnames
  refine List.ext_getElem hlength fun i hi hi' => ?_
  refine hg.eq_of_name hh (List.getElem_mem hi) (List.getElem_mem hi') ?_
  have hget := List.getElem_of_eq hnames (i := i) (by simpa using hi)
  rwa [List.getElem_map, List.getElem_map] at hget

theorem sum_values_memberGroups (ms : List Member) :
    ((memberGroups ms).map (·.values.length)).sum = ms.length := by
  have hcount : ∀ n, (ms.filter (·.name == n)).length = (ms.map (·.name)).count n := by
    intro n
    rw [List.count_eq_countP, List.countP_map, List.countP_eq_length_filter]
    rfl
  have hsum := sum_count_eraseDups (ms.map (·.name))
  rw [List.length_map] at hsum
  rw [← hsum]
  simp only [memberGroups, groupedMembers, List.map_map, Function.comp_def, List.length_map, hcount]

end Groups

theorem groupedMembers_eq_value_iff {ms : List Member} (hne : ms ≠ []) :
    (∃ vs, groupedMembers ms = [("value", vs)]) ↔ ∀ m ∈ ms, m.name = "value" := by
  constructor
  · rintro ⟨vs, h⟩ m hm
    have hnames : (ms.map (·.name)).eraseDups = ["value"] := by
      simpa [groupedMembers, Function.comp_def] using congrArg (List.map (·.1)) h
    have hmem := List.mem_eraseDups.mpr (List.mem_map_of_mem (f := (·.name)) hm)
    rwa [hnames, List.mem_singleton] at hmem
  · intro h
    obtain ⟨m, rest, rfl⟩ := List.exists_cons_of_ne_nil hne
    have hrest : (rest.map (·.name)).filter (fun n => !n == m.name) = [] := by
      simp_all
    refine ⟨((m :: rest).filter (·.name == "value")).map (·.value), ?_⟩
    rw [groupedMembers, List.map_cons, List.eraseDups_cons, hrest, h m List.mem_cons_self]
    rfl

theorem memberValue_of_ne_nil {vs : List String} (h : vs ≠ []) :
    memberValue vs =
      if 2 ≤ vs.length then "\x7b" ++ ", ".intercalate vs ++ "\x7d" else ", ".intercalate vs := by
  match vs with
  | [v] => simp [memberValue]
  | v :: w :: rest => simp [memberValue]

theorem groupedMembers_values_ne_nil {ms : List Member} {g : String × List String}
    (h : g ∈ groupedMembers ms) : g.2 ≠ [] := by
  obtain ⟨n, hn, rfl⟩ := List.mem_map.mp h
  obtain ⟨m, hm, rfl⟩ := List.mem_map.mp (List.mem_eraseDups.mp hn)
  have hmem : m ∈ ms.filter (·.name == m.name) := List.mem_filter.mpr ⟨hm, beq_self_eq_true _⟩
  simpa using List.ne_nil_of_mem hmem

theorem memberList_eq_groups {ms : List Member} (hne : ms ≠ []) :
    memberList ms = ", ".intercalate ((memberGroups ms).map (·.text)) := by
  have hbare := groupedMembers_eq_value_iff hne
  unfold memberList
  split
  · rename_i vs hgroups
    have hvalues : vs ≠ [] :=
      groupedMembers_values_ne_nil (hgroups ▸ List.mem_singleton_self ("value", vs))
    have hall : ms.all (·.name == "value") = true := by simpa using hbare.mp ⟨vs, hgroups⟩
    simp [memberGroups, MemberGroup.text, hgroups, hall, memberValue_of_ne_nil hvalues]
  · rename_i hgroups
    have hall : ms.all (·.name == "value") = false := by
      rw [Bool.eq_false_iff, Ne, List.all_eq_true]
      intro hall
      obtain ⟨vs, h⟩ := hbare.mpr fun m hm => beq_iff_eq.mp (hall m hm)
      exact hgroups vs h
    rw [memberGroups, List.map_map]
    refine congrArg _ (List.map_congr_left fun g hg => ?_)
    simp [MemberGroup.text, hall, memberValue_of_ne_nil (groupedMembers_values_ne_nil hg)]

/-- An annotation without members is only its name. Otherwise its parentheses hold one group for
each member name, and all values. -/
theorem text_of_members (s : ImportScope) (a : AnnotationUse) :
    (a.text s = "@" ++ s.spelling a.type ↔ a.members = []) ∧
    (a.members ≠ [] → ∃! gs, GroupedAs a.members gs ∧
      a.text s = "@" ++ s.spelling a.type ++ "(" ++ ", ".intercalate (gs.map (·.text)) ++ ")" ∧
      (gs.map (·.values.length)).sum = a.members.length) := by
  have htext : a.members ≠ [] →
      a.text s = "@" ++ s.spelling a.type ++ "(" ++ memberList a.members ++ ")" := by
    intro hne
    simp [AnnotationUse.text, hne]
  refine ⟨⟨fun h => ?_, fun h => by simp [AnnotationUse.text, h]⟩, fun hne => ?_⟩
  · by_contra hne
    rw [htext hne] at h
    have hlength := congrArg String.length h
    have hopen : "(".length = 1 := by decide
    simp only [String.length_append] at hlength
    omega
  · refine ⟨memberGroups a.members, ⟨groupedAs_memberGroups _, ?_, sum_values_memberGroups _⟩, ?_⟩
    · rw [htext hne, memberList_eq_groups hne]
    · rintro gs ⟨hgs, -⟩
      exact hgs.unique (groupedAs_memberGroups _)

def interleavedUse : AnnotationUse :=
  ⟨.inPackage "p" "Range", [⟨"min", "1"⟩, ⟨"value", "2"⟩, ⟨"min", "3"⟩]⟩

def interleavedScope : ImportScope :=
  (ImportScope.opened "q" (.inPackage "q" "A")).claim interleavedUse.type

theorem text_interleavedUse :
    interleavedUse.members ≠ [] ∧
    interleavedUse.text interleavedScope = "@Range(min = \x7b1, 3\x7d, value = 2)" ∧
    ∃! gs, GroupedAs interleavedUse.members gs ∧
      interleavedUse.text interleavedScope = "@" ++ interleavedScope.spelling interleavedUse.type ++
        "(" ++ ", ".intercalate (gs.map (·.text)) ++ ")" ∧
      (gs.map (·.values.length)).sum = interleavedUse.members.length :=
  ⟨by decide, by decide, (text_of_members interleavedScope interleavedUse).2 (by decide)⟩

end SchemaToJava.Java
