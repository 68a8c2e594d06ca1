import Mathlib
import SchemaToJava.Proofs.FileTree.Refusal
import SchemaToJava.Proofs.SchemaFile

/-!
How loading a document ends. A file is loaded if its text is a document, and a directory if the
texts of the files below it are documents, by themselves and joined; that the joined text is none is
not said in the way in which it is said of a file.
-/

namespace SchemaToJava.SchemaFile

open GraphQL Text

/-- The file holds a text that is a document by itself. -/
def Holds (t : FileTree) (file : Path) (text : List Char) : Prop :=
  ∃ bytes cs doc, t.read file = .ok bytes ∧ Utf8.decode bytes = .ok cs ∧
    text = unifyLineEnds cs ∧ Document.parse text = .ok doc

/-- What is said of a path behind which a file is of no use. -/
inductive Rejects (t : FileTree) (p file : Path) : Fault → Prop where
  | unread {e : FileError} (hread : t.read file = .error e) :
    Rejects t p file (.unreadableSchema p (.file e))
  | undecodable {bytes : List UInt8} {e : Utf8.DecodeError} (hread : t.read file = .ok bytes)
    (hdecode : Utf8.decode bytes = .error e) : Rejects t p file (.unreadableSchema p (.encoding e))
  | invalid {bytes : List UInt8} {cs : List Char} {e : SyntaxError} (loadedFrom : String)
    (hread : t.read file = .ok bytes) (hdecode : Utf8.decode bytes = .ok cs)
    (hparse : Document.parse (unifyLineEnds cs) = .error e) :
    Rejects t p file (.invalidSchema p loadedFrom (unifyLineEnds cs) e)

def loadedFiles (t : FileTree) (directory : Path) : List Path :=
  (inOrder ((t.filesBelow directory).filter isLoaded)).map (below directory)

def joined (texts : List (List Char)) : List Char := ['\n'].intercalate texts

variable {t : FileTree} {p file : Path} {loadedFrom : String} {bytes : List UInt8}
  {text : List Char} {f : Fault}

theorem checkedText_eq_ok_iff : checkedText p loadedFrom bytes = .ok text ↔
    ∃ cs doc, Utf8.decode bytes = .ok cs ∧ text = unifyLineEnds cs ∧
      Document.parse text = .ok doc := by
  rw [checkedText, Outcome.bind_eq_ok_iff]
  constructor
  · rintro ⟨text', hdecode, hcheck⟩
    unfold decode at hdecode
    split at hdecode
    · rename_i cs hcs
      cases hdecode
      unfold check at hcheck
      split at hcheck
      · rename_i doc hdoc
        cases hcheck
        exact ⟨cs, doc, hcs, rfl, hdoc⟩
      · cases hcheck
    · cases hdecode
  · rintro ⟨cs, doc, hcs, rfl, hdoc⟩
    refine ⟨unifyLineEnds cs, ?_, ?_⟩
    · rw [decode, hcs]
    · rw [check, hdoc]

theorem rejects_of_checkedText (hread : t.read file = .ok bytes)
    (h : checkedText p loadedFrom bytes = .error f) : Rejects t p file f := by
  rcases Outcome.bind_eq_error_iff.mp h with h | ⟨text, hdecode, h⟩
  · unfold decode at h
    split at h
    · cases h
    · rename_i e he
      cases h
      exact .undecodable hread he
  · unfold decode at hdecode
    split at hdecode
    · rename_i cs hcs
      cases hdecode
      unfold check at h
      split at h
      · cases h
      · rename_i e he
        cases h
        exact .invalid loadedFrom hread hcs he
    · cases hdecode

def textBelow (t : FileTree) (p : Path) (way : Location) : Except Fault (List Char) :=
  match t.read (below p way) with
  | .ok bytes => checkedText p (nameBelow p way) bytes
  | .error e => .error (.unreadableSchema p (.file e))

theorem textsBelow_eq_mapM : textsBelow t p =
    (inOrder ((t.filesBelow p).filter isLoaded)).mapM (textBelow t p) := rfl

theorem textBelow_eq_ok_iff {way : Location} :
    textBelow t p way = .ok text ↔ Holds t (below p way) text := by
  unfold textBelow Holds
  cases hread : t.read (below p way) with
  | ok bytes => simp [checkedText_eq_ok_iff]
  | error e => simp

theorem rejects_of_textBelow {way : Location} (h : textBelow t p way = .error f) :
    Rejects t p (below p way) f := by
  unfold textBelow at h
  split at h
  · rename_i hread
    exact rejects_of_checkedText hread h
  · rename_i hread
    cases h
    exact .unread hread

theorem forall₂_holds_iff {ways : List Location} {texts : List (List Char)} :
    List.Forall₂ (Holds t) (ways.map (below p)) texts ↔
      ways.mapM (textBelow t p) = .ok texts := by
  rw [Outcome.mapM_eq_ok_iff, List.forall₂_map_left_iff]
  simp only [textBelow_eq_ok_iff]

theorem textsBelow_eq_ok_iff {texts : List (List Char)} :
    textsBelow t p = .ok texts ↔ List.Forall₂ (Holds t) (loadedFiles t p) texts := by
  rw [textsBelow_eq_mapM, loadedFiles, forall₂_holds_iff]

theorem rejects_of_textsBelow (h : textsBelow t p = .error f) : ∃ before file after texts,
    loadedFiles t p = before ++ file :: after ∧ List.Forall₂ (Holds t) before texts ∧
      Rejects t p file f := by
  rw [textsBelow_eq_mapM] at h
  obtain ⟨before, way, after, texts, hways, hbefore, hway⟩ := Outcome.exists_of_mapM_eq_error h
  refine ⟨before.map (below p), below p way, after.map (below p), texts, ?_,
    forall₂_holds_iff.mpr hbefore, rejects_of_textBelow hway⟩
  rw [loadedFiles, hways, List.map_append, List.map_cons]

/-- How loading ends, by what the path leads to. -/
inductive Loads (t : FileTree) (p : Path) : Except Fault Document → Prop where
  | file {text : List Char} {doc : Document} (hdirectory : t.isDirectory p = false)
    (hholds : Holds t (p.resolved t.home) text) (hparse : Document.parse text = .ok doc) :
    Loads t p (.ok doc)
  | nullInPath (hdirectory : t.isDirectory p = false)
    (hnull : FileTree.hasNull (p.resolved t.home) = true) : Loads t p (.error (.file .nullInPath))
  | rejected {f : Fault} (hdirectory : t.isDirectory p = false)
    (hnull : FileTree.hasNull (p.resolved t.home) = false)
    (hrejects : Rejects t p (p.resolved t.home) f) : Loads t p (.error f)
  | directory {texts : List (List Char)} {doc : Document} (hdirectory : t.isDirectory p = true)
    (hholds : List.Forall₂ (Holds t) (loadedFiles t p) texts)
    (hparse : Document.parse (joined texts) = .ok doc) : Loads t p (.ok doc)
  | rejectedBelow {before after : List Path} {file : Path} {texts : List (List Char)} {f : Fault}
    (hdirectory : t.isDirectory p = true) (hfiles : loadedFiles t p = before ++ file :: after)
    (hholds : List.Forall₂ (Holds t) before texts) (hrejects : Rejects t p file f) :
    Loads t p (.error f)
  | noDocument {texts : List (List Char)} {e : SyntaxError} (hdirectory : t.isDirectory p = true)
    (hholds : List.Forall₂ (Holds t) (loadedFiles t p) texts)
    (hparse : Document.parse (joined texts) = .error e) : Loads t p (.error (.document e))

theorem hasNull_of_read_eq (hread : t.read p = .ok bytes) : FileTree.hasNull p = false := by
  unfold FileTree.read at hread
  split at hread
  · cases hread
  · rename_i hnull
    exact Bool.eq_false_iff.mpr hnull

theorem read_of_hasNull (h : FileTree.hasNull p = true) : t.read p = .error .nullInPath := by
  rw [FileTree.read, if_pos h]

theorem loads_file (hdirectory : t.isDirectory p = false) : Loads t p (document t p) := by
  cases hread : t.read (p.resolved t.home) with
  | error e =>
    have htext : textOf t p =
        .error (Run.fileFault (fun e => .unreadableSchema p (.file e)) e) := by
      simp only [textOf, hdirectory, Bool.false_eq_true, if_false, hread]
    rw [document, htext]
    cases e with
    | nullInPath => exact .nullInPath hdirectory (FileTree.hasNull_of_read hread)
    | refused r q =>
      refine .rejected hdirectory (Bool.eq_false_iff.mpr fun hnull => ?_) (.unread hread)
      rw [read_of_hasNull hnull] at hread
      cases hread
  | ok bytes =>
    have htext : textOf t p = checkedText p (p.resolved t.home).text bytes := by
      simp only [textOf, hdirectory, Bool.false_eq_true, if_false, hread]
    rw [document, htext]
    cases hchecked : checkedText p (p.resolved t.home).text bytes with
    | error f =>
      exact .rejected hdirectory (hasNull_of_read_eq hread) (rejects_of_checkedText hread hchecked)
    | ok text =>
      obtain ⟨cs, doc, hdecode, htext, hparse⟩ := checkedText_eq_ok_iff.mp hchecked
      have hdoc : (Document.parse text).mapError Fault.document = .ok doc := by
        rw [hparse]
        rfl
      change Loads t p ((Document.parse text).mapError Fault.document)
      rw [hdoc]
      exact .file hdirectory ⟨bytes, cs, doc, hread, hdecode, htext, hparse⟩ hparse

theorem loads_directory (hdirectory : t.isDirectory p = true) : Loads t p (document t p) := by
  have htext : textOf t p = (textsBelow t p).map joined := by
    rw [textOf, if_pos hdirectory]
    cases textsBelow t p <;> rfl
  rw [document, htext]
  cases htexts : textsBelow t p with
  | error f =>
    obtain ⟨before, file, after, texts, hfiles, hholds, hrejects⟩ := rejects_of_textsBelow htexts
    exact .rejectedBelow hdirectory hfiles hholds hrejects
  | ok texts =>
    have hholds := textsBelow_eq_ok_iff.mp htexts
    change Loads t p ((Document.parse (joined texts)).mapError Fault.document)
    cases hparse : Document.parse (joined texts) with
    | ok doc => exact .directory hdirectory hholds hparse
    | error e => exact .noDocument hdirectory hholds hparse

theorem loads (t : FileTree) (p : Path) : Loads t p (document t p) := by
  cases hdirectory : t.isDirectory p with
  | false => exact loads_file hdirectory
  | true => exact loads_directory hdirectory

/-- What is said of a path that no document can be loaded from. -/
inductive Documented (p : Path) : Fault → Prop where
  | invalid (loadedFrom : String) (text : List Char) (e : SyntaxError) :
    Documented p (.invalidSchema p loadedFrom text e)
  | unreadable (why : ReadFailure) : Documented p (.unreadableSchema p why)

theorem Documented.isReported (h : Documented p f) : f.isReported = true := by
  cases h <;> rfl

theorem Rejects.documented (h : Rejects t p file f) : Documented p f := by
  cases h with
  | unread => exact .unreadable _
  | undecodable => exact .unreadable _
  | invalid => exact .invalid _ _ _

theorem Loads.fault (h : Loads t p (.error f)) :
    Documented p f ∨ f = .file .nullInPath ∨ ∃ e, f = .document e := by
  cases h with
  | nullInPath => exact .inr (.inl rfl)
  | rejected _ _ hrejects => exact .inl hrejects.documented
  | rejectedBelow _ _ _ hrejects => exact .inl hrejects.documented
  | noDocument => exact .inr (.inr ⟨_, rfl⟩)

theorem Documented.ne_nullInPath : ¬ Documented p (.file .nullInPath) := by
  rintro ⟨⟩

theorem Documented.ne_document {e : SyntaxError} : ¬ Documented p (.document e) := by
  rintro ⟨⟩

/-- Loading is not where a missing schema directory is noticed. -/
theorem not_isDirectoryFault_document (h : document t p = .error f) : ¬ IsDirectoryFault f := by
  rcases (h ▸ loads t p).fault with hdocumented | rfl | ⟨e, rfl⟩
  · cases hdocumented <;> rintro ⟨⟩
  · rintro ⟨⟩
  · rintro ⟨⟩

theorem document_eq_nullInPath_iff : document t p = .error (.file .nullInPath) ↔
    t.isDirectory p = false ∧ FileTree.hasNull (p.resolved t.home) = true := by
  constructor
  · intro h
    have hloads := loads t p
    rw [h] at hloads
    cases hloads with
    | nullInPath hdirectory hnull => exact ⟨hdirectory, hnull⟩
    | rejected _ _ hrejects => exact absurd hrejects.documented Documented.ne_nullInPath
    | rejectedBelow _ _ _ hrejects => exact absurd hrejects.documented Documented.ne_nullInPath
  · rintro ⟨hdirectory, hnull⟩
    have htext : textOf t p = .error (.file .nullInPath) := by
      simp only [textOf, hdirectory, Bool.false_eq_true, if_false, read_of_hasNull hnull]
      rfl
    rw [document, htext]
    rfl

theorem document_eq_document_iff {e : SyntaxError} : document t p = .error (.document e) ↔
    t.isDirectory p = true ∧ ∃ texts, List.Forall₂ (Holds t) (loadedFiles t p) texts ∧
      Document.parse (joined texts) = .error e := by
  constructor
  · intro h
    have hloads := loads t p
    rw [h] at hloads
    cases hloads with
    | rejected _ _ hrejects => exact absurd hrejects.documented Documented.ne_document
    | rejectedBelow _ _ _ hrejects => exact absurd hrejects.documented Documented.ne_document
    | noDocument hdirectory hholds hparse => exact ⟨hdirectory, _, hholds, hparse⟩
  · rintro ⟨hdirectory, texts, hholds, hparse⟩
    have htext : textOf t p = .ok (joined texts) := by
      rw [textOf, if_pos hdirectory, textsBelow_eq_ok_iff.mpr hholds]
      rfl
    rw [document, htext]
    exact congrArg (Except.mapError Fault.document) hparse

/-- Loading changes nothing, and ends with a document or with what is said of a file that cannot be
read or is no document, by what the path leads to. There are two exceptions: a path with a null
character that leads to no directory, and a directory in which each file is a document but not the
joined text; which cannot be where the directory holds one file only, and is always so where it
holds none. -/
theorem load_of_path (t : FileTree) (p : Path) : ∃ o, (load p).Ends t o [] t ∧ Loads t p o ∧
    (∀ f, o = .error f → Documented p f ∨ f = .file .nullInPath ∨ ∃ e, f = .document e) ∧
    (o = .error (.file .nullInPath) ↔
      t.isDirectory p = false ∧ FileTree.hasNull (p.resolved t.home) = true) ∧
    (∀ e, o = .error (.document e) ↔ t.isDirectory p = true ∧
      ∃ texts, List.Forall₂ (Holds t) (loadedFiles t p) texts ∧
        Document.parse (joined texts) = .error e) ∧
    (∀ file e, loadedFiles t p = [file] → o ≠ .error (.document e)) ∧
    (t.isDirectory p = true → loadedFiles t p = [] → ∃ e, o = .error (.document e)) := by
  refine ⟨document t p, load_ends t p, loads t p, fun f hf => (hf ▸ loads t p).fault,
    document_eq_nullInPath_iff, fun e => document_eq_document_iff, fun file e hfile hdoc => ?_,
    fun hdirectory hnone => ?_⟩
  · obtain ⟨-, texts, hholds, hparse⟩ := document_eq_document_iff.mp hdoc
    rw [hfile, List.forall₂_cons_left_iff] at hholds
    obtain ⟨text, rest, ⟨_, _, doc, -, -, -, hdoc⟩, hrest, rfl⟩ := hholds
    rw [List.forall₂_nil_left_iff] at hrest
    rw [hrest, joined, List.intercalate_singleton, hdoc] at hparse
    cases hparse
  · have hempty : ∃ e, Document.parse (joined []) = .error e := ⟨_, rfl⟩
    obtain ⟨e, he⟩ := hempty
    exact ⟨e, document_eq_document_iff.mpr ⟨hdirectory, [], by rw [hnone]; exact .nil, he⟩⟩

def openText : String := "type A"

def queryText : String := "\x7b x \x7d"

def splitTree : FileTree :=
  ⟨[], [(["d"], .directory), (["d", "a.graphqls"], .file (Utf8.encode openText)),
    (["d", "b.graphqls"], .file (Utf8.encode queryText))]⟩

def splitPath (way : Location) : Path := ⟨.working, "d" :: way⟩

theorem load_splitTree :
    (∃ f, ((load (splitPath ["c.graphqls"])).on splitTree).outcome = .error f ∧
      Documented (splitPath ["c.graphqls"]) f) ∧
    ∀ e, ((load (splitPath ["a.graphqls"])).on splitTree).outcome ≠ .error (.document e) := by
  constructor
  · obtain ⟨o, hends, -, hfault, -, -, -, -⟩ := load_of_path splitTree (splitPath ["c.graphqls"])
    have hmissing : ((load (splitPath ["c.graphqls"])).on splitTree).outcome =
        .error (.unreadableSchema (splitPath ["c.graphqls"])
          (.file (.refused .notFound ⟨.top, ["d", "c.graphqls"]⟩))) := by cbv
    refine ⟨_, hmissing, ?_⟩
    rcases hfault _ (hends.outcome.symm.trans hmissing) with h | h | ⟨e, h⟩
    · exact h
    · cases h
    · cases h
  · intro e he
    obtain ⟨o, hends, -, -, -, hdocument, -, -⟩ :=
      load_of_path splitTree (splitPath ["a.graphqls"])
    obtain ⟨hdirectory, -⟩ := (hdocument e).mp (hends.outcome.symm.trans he)
    have hfile : splitTree.isDirectory (splitPath ["a.graphqls"]) = false := by cbv
    cases hfile.symm.trans hdirectory

theorem parse_openText : Document.parse openText.toList =
    .ok ⟨[.typeSystem (.object ⟨none, "A", [], [], []⟩)]⟩ := by
  cbv

set_option maxRecDepth 1000 in
theorem parse_queryText : Document.parse queryText.toList = .ok ⟨[.operation none]⟩ := by
  cbv

set_option maxRecDepth 1000 in
theorem parse_openText_queryText : Document.parse (joined [openText.toList, queryText.toList]) =
    .error ⟨.expected (.punct .colon) (.punct .braceR), ⟨2, 5⟩⟩ := by
  cbv

/-- Each file is a document by itself, but the directory that holds them is not loaded. -/
theorem load_splitDirectory :
    List.Forall₂ (Holds splitTree) (loadedFiles splitTree (splitPath []))
      [openText.toList, queryText.toList] ∧
    ¬ ((∃ doc, ((load (splitPath [])).on splitTree).outcome = .ok doc) ∨
      ∃ f, ((load (splitPath [])).on splitTree).outcome = .error f ∧
        Documented (splitPath []) f) := by
  have hdirectory : splitTree.isDirectory (splitPath []) = true := by cbv
  have hfiles : loadedFiles splitTree (splitPath []) =
      [splitPath ["a.graphqls"], splitPath ["b.graphqls"]] := by cbv
  have hholds : List.Forall₂ (Holds splitTree) (loadedFiles splitTree (splitPath []))
      [openText.toList, queryText.toList] := by
    rw [hfiles]
    refine .cons ⟨Utf8.encode openText, openText.toList, _, ?_, ?_, ?_, parse_openText⟩
      (.cons ⟨Utf8.encode queryText, queryText.toList, _, ?_, ?_, ?_, parse_queryText⟩ .nil) <;> cbv
  refine ⟨hholds, ?_⟩
  rw [(load_ends splitTree _).outcome,
    document_eq_document_iff.mpr ⟨hdirectory, _, hholds, parse_openText_queryText⟩]
  rintro (⟨doc, h⟩ | ⟨f, h, hdocumented⟩)
  · cases h
  · cases h
    exact Documented.ne_document hdocumented

end SchemaToJava.SchemaFile
