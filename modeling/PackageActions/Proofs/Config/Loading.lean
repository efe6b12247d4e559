import Mathlib.Control.Monad.Basic
import PackageActions.Config.Load
import PackageActions.Proofs.Except
import PackageActions.Proofs.Text.Utf8

/-!
# Where a configuration comes from

A named file has to be there, and `Reads` says what comes of it for all that can come of reading its bytes.
A file that is looked for need not be there: `Discerns` lets the default settings stand in for a file that is
absent, and for nothing else that may be wrong. What is looked for is not discerned so well (`Finds`), since
every failed look-up is taken for an absent file (`discerns_load_iff`). In a tree of files a look-up fails as
reading does, so what is lost is what a named file at the same place would have reported
(`FileTree.contents_eq_error`).
-/

namespace PackageActions

namespace Config

variable {files : Files} {env : Environment} {path : Bytes} {result : Except Error Config}

/-! ## Files that have to be there -/

/-- What comes of a file that has to be there. -/
inductive Reads (files : Files) (path : Bytes) : Except Error Config → Prop where
  | text {text : String} (hcontents : files.contents path = .ok (Text.encodeUtf8 text)) :
      Reads files path (ofToml text)
  | noText {bytes : Bytes} (hcontents : files.contents path = .ok bytes)
      (hbytes : ∀ text, bytes ≠ Text.encodeUtf8 text) : Reads files path (.error (.io .notUtf8))
  | absent {failure : IoFailure} (hcontents : files.contents path = .error failure)
      (hkind : failure.kind = .notFound) :
      Reads files path (.error (.config (.notFound (Text.decodeLossy path))))
  | failed {failure : IoFailure} (hcontents : files.contents path = .error failure)
      (hkind : failure.kind ≠ .notFound) : Reads files path (.error (.io failure))

theorem reads_ofFile (files : Files) (path : Bytes) : Reads files path (ofFile files path) := by
  unfold ofFile
  split
  · rename_i failure hcontents
    split
    · rename_i hkind
      exact .absent hcontents hkind
    · rename_i hkind
      exact .failed hcontents hkind
  · rename_i bytes hcontents
    split
    · rename_i text htext
      rw [Text.decodeUtf8?_eq_some_iff] at htext
      exact .text (htext ▸ hcontents)
    · rename_i hnone
      refine .noText hcontents fun text hbytes => ?_
      rw [Text.decodeUtf8?_eq_some_iff.2 hbytes] at hnone
      cases hnone

theorem Reads.ofFile_eq (h : Reads files path result) : ofFile files path = result := by
  cases h with
  | text hcontents => simp only [ofFile, hcontents, Text.decodeUtf8?_eq_some_iff.2 rfl]
  | noText hcontents hbytes =>
      have hnone := Option.eq_none_iff_forall_ne_some.2 fun text htext =>
        hbytes text (Text.decodeUtf8?_eq_some_iff.1 htext)
      simp only [ofFile, hcontents, hnone]
  | absent hcontents hkind => simp only [ofFile, hcontents, if_pos hkind]
  | failed hcontents hkind => simp only [ofFile, hcontents, if_neg hkind]

theorem ofFile_eq_iff : ofFile files path = result ↔ Reads files path result := by
  constructor
  · rintro rfl
    exact reads_ofFile files path
  · exact Reads.ofFile_eq

/-! ## Files that are looked for -/

/-- What comes of a file that is looked for. -/
inductive Finds (files : Files) (path : Bytes) : Except Error Config → Prop where
  | found {result : Except Error Config} (hlookUp : files.lookUp path = .ok ())
      (h : Reads files path result) : Finds files path result
  | failed {failure : IoFailure} (hlookUp : files.lookUp path = .error failure) : Finds files path (.ok {})

/-- The default settings stand in for an absent file, and whatever else comes of a file is reported. -/
inductive Discerns (files : Files) (path : Bytes) : Except Error Config → Prop where
  | absent {failure : IoFailure} (hlookUp : files.lookUp path = .error failure)
      (hkind : failure.kind = .notFound) : Discerns files path (.ok {})
  | present {result : Except Error Config}
      (hlookUp : ∀ failure, files.lookUp path = .error failure → failure.kind ≠ .notFound)
      (h : Reads files path result) : Discerns files path result

theorem load_none_of_lookUp_eq_ok (hpath : defaultPath env = .ok path)
    (hlookUp : files.lookUp path = .ok ()) : load files env none = ofFile files path := by
  simp only [load, hpath, bind, Except.bind, hlookUp]

theorem load_none_of_lookUp_eq_error (hpath : defaultPath env = .ok path) {failure : IoFailure}
    (hlookUp : files.lookUp path = .error failure) : load files env none = .ok {} := by
  simp only [load, hpath, bind, Except.bind, hlookUp]
  rfl

theorem load_none_eq_iff (hpath : defaultPath env = .ok path) :
    load files env none = result ↔ Finds files path result := by
  constructor
  · rintro rfl
    cases hlookUp : files.lookUp path with
    | ok _ =>
        rw [load_none_of_lookUp_eq_ok hpath hlookUp]
        exact .found hlookUp (reads_ofFile files path)
    | error failure =>
        rw [load_none_of_lookUp_eq_error hpath hlookUp]
        exact .failed hlookUp
  · rintro (⟨hlookUp, h⟩ | hlookUp)
    · exact (load_none_of_lookUp_eq_ok hpath hlookUp).trans h.ofFile_eq
    · exact load_none_of_lookUp_eq_error hpath hlookUp

/-- Nothing is lost unless a look-up fails where reading would not have given the default settings. -/
theorem discerns_load_iff (hpath : defaultPath env = .ok path) :
    Discerns files path (load files env none) ↔ ∀ failure, files.lookUp path = .error failure →
      failure.kind = .notFound ∨ Reads files path (.ok {}) := by
  constructor
  · intro h failure hlookUp
    rw [load_none_of_lookUp_eq_error hpath hlookUp] at h
    cases h with
    | absent hlookUp' hkind =>
        rw [hlookUp, Except.error.injEq] at hlookUp'
        exact .inl (hlookUp' ▸ hkind)
    | present _ h => exact .inr h
  · intro h
    cases hlookUp : files.lookUp path with
    | ok _ =>
        rw [load_none_of_lookUp_eq_ok hpath hlookUp]
        refine .present (fun failure hfailure => ?_) (reads_ofFile files path)
        rw [hlookUp] at hfailure
        cases hfailure
    | error failure =>
        rw [load_none_of_lookUp_eq_error hpath hlookUp]
        by_cases hkind : failure.kind = .notFound
        · exact .absent hlookUp hkind
        · refine .present (fun failure' hfailure => ?_) ((h failure hlookUp).resolve_left hkind)
          rw [hlookUp, Except.error.injEq] at hfailure
          exact hfailure ▸ hkind

end Config

/-! ## Trees of files -/

/-- In a tree, what cannot be looked up cannot be read, and for the same reason. -/
theorem FileTree.contents_eq_error {root : FileTree} {directory : List Bytes} {path : Bytes}
    {failure : IoFailure} (h : (root.files directory).lookUp path = .error failure) :
    (root.files directory).contents path = .error failure :=
  Except.bind_eq_error_iff.2 (.inl (Except.map_eq_error_iff.1 h))

namespace Config

/-- A named file gives its settings if it holds a text, an error with its path if it is absent, and else the
failure. A file that is looked for gives the same where the look-up succeeds, and the default settings where
it fails, whatever the failure. So a failure other than absence is lost, unless reading would have given the
default settings all the same. In a tree it always is lost, and naming the path brings it to light. -/
theorem failed_lookUp_taken_for_absence {env : Environment} {path : Bytes}
    (hpath : defaultPath env = .ok path) (files : Files) :
    (∀ named result, load files env (some named) = result ↔ Reads files named result) ∧
      (∀ name failure, files.contents (Text.encodeUtf8 name) = .error failure → failure.kind = .notFound →
        load files env (some (Text.encodeUtf8 name)) = .error (.config (.notFound name))) ∧
      (∀ result, load files env none = result ↔ Finds files path result) ∧
      (Discerns files path (load files env none) ↔ ∀ failure, files.lookUp path = .error failure →
        failure.kind = .notFound ∨ Reads files path (.ok {})) ∧
      ∀ root directory failure, files = FileTree.files root directory →
        files.lookUp path = .error failure → failure.kind ≠ .notFound →
          load files env none = .ok {} ∧ load files env (some path) = .error (.io failure) := by
  refine ⟨fun named result => ofFile_eq_iff, ?_, fun result => load_none_eq_iff hpath,
    discerns_load_iff hpath, ?_⟩
  · intro name failure hcontents hkind
    have h := (Reads.absent hcontents hkind).ofFile_eq
    rwa [Text.decodeLossy_encodeUtf8] at h
  · rintro root directory failure rfl hlookUp hkind
    have hcontents := FileTree.contents_eq_error hlookUp
    exact ⟨load_none_of_lookUp_eq_error hpath hlookUp, (Reads.failed hcontents hkind).ofFile_eq⟩

/-! ### A home with a file in place of a directory -/

/-- The environment of a user with a home. -/
def homeEnvironment : Environment := fun name =>
  if name = "HOME" then some (Text.encodeUtf8 "/home") else none

/-- Files in which the configuration directory of that user is a file. -/
def filesWithoutDirectory : Files :=
  (FileTree.directory [(Text.encodeUtf8 "home",
    .directory [(Text.encodeUtf8 ".config", .file [])])]).files []

/-- The path at which that user's configuration is looked for. -/
def homePath : Bytes := Text.encodeUtf8 "/home/.config/pact/config.toml"

theorem defaultPath_homeEnvironment : defaultPath homeEnvironment = .ok homePath := by decide +kernel

theorem lookUp_homePath : filesWithoutDirectory.lookUp homePath = .error .notADirectory := by decide +kernel

theorem notADirectory_kind_ne_notFound : IoFailure.notADirectory.kind ≠ .notFound := by
  rw [IoFailure.kind_notADirectory]
  decide

/-- A file in place of a directory is an error where the path is named, and goes unnoticed where it is looked
for. -/
theorem failed_lookUp_taken_for_absence_home :
    load filesWithoutDirectory homeEnvironment none = .ok {} ∧
      load filesWithoutDirectory homeEnvironment (some homePath) = .error (.io .notADirectory) :=
  (failed_lookUp_taken_for_absence defaultPath_homeEnvironment filesWithoutDirectory).2.2.2.2 _ _ _ rfl
    lookUp_homePath notADirectory_kind_ne_notFound

/-- So the default settings do not only stand in for absent files. -/
theorem not_discerns_load_home : defaultPath homeEnvironment = .ok homePath ∧
    ¬ Discerns filesWithoutDirectory homePath (load filesWithoutDirectory homeEnvironment none) := by
  refine ⟨defaultPath_homeEnvironment, fun h => ?_⟩
  rcases (discerns_load_iff defaultPath_homeEnvironment).1 h _ lookUp_homePath with habsent | hread
  · exact notADirectory_kind_ne_notFound habsent
  · have hcontents : filesWithoutDirectory.contents homePath = .error .notADirectory :=
      FileTree.contents_eq_error lookUp_homePath
    have hreported := (Reads.failed hcontents notADirectory_kind_ne_notFound).ofFile_eq
    rw [hread.ofFile_eq] at hreported
    cases hreported

end Config

end PackageActions
