import LayoutTree.Layout.Format
import LayoutTree.Proofs.Json.Occasion
import LayoutTree.Proofs.Yaml.Failing

/-!
# Failures that are not documented

Reading a layout file is documented to give a forest or a fault of the source. Four other failures
come out of it, each for a reason of its own (`Undocumented`): the file system takes no path as long
as the one given, an integer of a JSON text or the version of a YAML text has more digits than are
converted, or an escape of a YAML text stands for a code that no character has.

* `documented_iff`: these are all that comes out besides, and what the path or the text holds for
  each of them.
-/

namespace LayoutTree

open LayoutTree.Text

/-! ## Paths that are too long -/

/-- A path with a name, or of a length, that no file system takes. -/
def FilePath.TooLong (p : FilePath) : Prop :=
  FileStore.maxPathBytes < p.text.utf8ByteSize ∨
    ∃ name ∈ p.parts, FileStore.maxNameBytes < name.utf8ByteSize

namespace FileStore

variable {store : FileStore} {p : FilePath}

theorem long_of_follow {loc : Location} {names : List String}
    (h : store.follow loc names = .error .nameTooLong) :
    ∃ name ∈ names, maxNameBytes < name.utf8ByteSize := by
  induction names generalizing loc with
  | nil => cases h
  | cons name rest ih =>
    have hrest : ∀ {next}, store.follow next rest = .error .nameTooLong →
        ∃ n ∈ name :: rest, maxNameBytes < n.utf8ByteSize := fun h => by
      obtain ⟨n, hn, hlong⟩ := ih h
      exact ⟨n, List.mem_cons_of_mem _ hn, hlong⟩
    rw [follow] at h
    split at h
    · cases h
    · split at h
      · exact hrest h
      · split at h
        · next hlong => exact ⟨name, List.mem_cons_self, hlong⟩
        · dsimp only at h
          split at h
          · exact hrest h
          · cases h

theorem tooLong_of_locate (h : store.locate p = .error .nameTooLong) : p.TooLong := by
  rw [locate] at h
  split at h
  · cases h
  · split at h
    · next hlong => exact .inl hlong
    · exact .inr (long_of_follow h)

/-- Whether a path leads to a file stays open only where the path is too long. -/
theorem isFile_eq_error_iff {reason : FileError} :
    store.isFile p = .error reason ↔ store.locate p = .error .nameTooLong ∧ reason = .nameTooLong := by
  rw [isFile, read]
  cases hlocate : store.locate p with
  | error e =>
    cases e
    all_goals simp [saysAbsent, eq_comm]
  | ok loc =>
    cases hbytes : store.bytesAt? loc
    all_goals simp [hbytes, saysAbsent]

theorem isFile_eq_true_iff : store.isFile p = .ok true ↔ ∃ a, store.read p = .ok a := by
  rw [isFile]
  cases hread : store.read p with
  | ok a => simp
  | error e =>
    cases e
    all_goals simp [saysAbsent]

end FileStore

/-! ## Faults -/

/-- A failure that is a fault of the source. -/
def ParseFailure.IsFault (e : ParseFailure) : Prop :=
  ∃ fault, e = .source fault

/-- The documented outcomes: a forest, or a fault of the source. -/
def Documented (r : Except ParseFailure (List Descriptor)) : Prop :=
  (∃ ds, r = .ok ds) ∨ ∃ fault, r = .error (.source fault)

theorem documented_error_iff {e : ParseFailure} : Documented (.error e) ↔ e.IsFault := by
  simp [Documented, ParseFailure.IsFault]

theorem Source.isFault_of_read {store : FileStore} {p : FilePath} {e : ParseFailure}
    (hfile : store.isFile p = .ok true) (h : Source.read store p = .error e) : e.IsFault := by
  obtain ⟨⟨loc, bytes⟩, hread⟩ := FileStore.isFile_eq_true_iff.1 hfile
  rw [Source.read, hread] at h
  dsimp only at h
  split at h
  · exact ⟨_, (Except.error.inj h).symm⟩
  · cases h

theorem Document.documented_ofData (file : FilePath) (document : Data) :
    Documented (Document.ofData file document) := by
  rw [Document.ofData.eq_def]
  dsimp only
  split
  · split
    · exact .inl ⟨_, rfl⟩
    · exact .inr ⟨_, rfl⟩
  · exact .inr ⟨_, rfl⟩

/-! ## Undocumented failures -/

/-- Why a failure that is no fault comes out of reading a file. -/
inductive Undocumented (store : FileStore) (p : FilePath) : ParseFailure → Prop
  /-- A format claims the path, but the file system takes none as long. -/
  | path {f : LayoutFormat} (hfind : Formats.standard.find p = some f)
      (hlocate : store.locate p = .error .nameTooLong) : Undocumented store p (.path .nameTooLong p)
  /-- The first thing wrong with a JSON text is an integer with too many digits. -/
  | integer {loc : Location} {s : List Char} {digits left : Nat}
      (hfind : Formats.standard.find p = some .json) (hread : Source.read store p = .ok (loc, s))
      (hjson : Json.readChars s = .error ⟨.longInteger digits, left⟩) :
      Undocumented store p (.number (.tooLong digits))
  /-- The first thing wrong with a YAML text is a version with too many digits. -/
  | version {loc : Location} {s : List Char} {digits : Nat}
      (hfind : Formats.standard.find p = some .yaml) (hread : Source.read store p = .ok (loc, s))
      (hyaml : Yaml.readChars s = .error (.longNumber digits)) :
      Undocumented store p (.number (.tooLong digits))
  /-- The first thing wrong with a YAML text is an escape for a code that no character has. -/
  | escape {loc : Location} {s : List Char} {code : Nat}
      (hfind : Formats.standard.find p = some .yaml) (hread : Source.read store p = .ok (loc, s))
      (hyaml : Yaml.readChars s = .error (.invalidCode code)) : Undocumented store p (.code code)

/-- What the path or the text of a file holds where a failure that is no fault comes out. -/
def ParseFailure.StandsIn (store : FileStore) (p : FilePath) (e : ParseFailure) : Prop :=
  match e with
  | .source _ => False
  | .path reason q => reason = .nameTooLong ∧ q = p ∧ p.TooLong
  | .number (.tooLong digits) => ∃ loc s, Source.read store p = .ok (loc, s) ∧ LongRun digits s
  | .number _ => False
  | .code n => ∃ loc s, Source.read store p = .ok (loc, s) ∧ Yaml.WideEscape n s

namespace Undocumented

variable {store : FileStore} {p : FilePath} {e : ParseFailure}

theorem standsIn (h : Undocumented store p e) : e.StandsIn store p := by
  cases h with
  | path hfind hlocate => exact ⟨rfl, rfl, FileStore.tooLong_of_locate hlocate⟩
  | integer hfind hread hjson => exact ⟨_, _, hread, Json.longRun_of_readChars hjson⟩
  | version hfind hread hyaml => exact ⟨_, _, hread, Yaml.holds_of_readChars hyaml⟩
  | escape hfind hread hyaml => exact ⟨_, _, hread, Yaml.holds_of_readChars hyaml⟩

theorem not_isFault (h : Undocumented store p e) : ¬ e.IsFault := by
  rintro ⟨fault, rfl⟩
  exact h.standsIn

end Undocumented

/-! ## Formats -/

section

variable {store : FileStore} {p : FilePath} {e : ParseFailure}

theorem TextFormat.isFault_of_parse (hfile : store.isFile p = .ok true)
    {normalize : String → Except String String}
    (h : (TextFormat.parse store normalize p).2 = .error e) : e.IsFault := by
  rw [TextFormat.parse] at h
  split at h
  · next hread =>
    cases h
    exact Source.isFault_of_read hfile hread
  · cases h

theorem XmlFormat.isFault_of_parse (hfile : store.isFile p = .ok true)
    (h : (XmlFormat.parse store p).2 = .error e) : e.IsFault := by
  rw [XmlFormat.parse] at h
  split at h
  · next hread =>
    cases h
    exact Source.isFault_of_read hfile hread
  · split at h
    · cases h
      exact ⟨_, rfl⟩
    · cases h

theorem JsonFormat.isFault_or_undocumented_of_parse (hfind : Formats.standard.find p = some .json)
    (hfile : store.isFile p = .ok true) (h : JsonFormat.parse store p = .error e) :
    e.IsFault ∨ Undocumented store p e := by
  rw [JsonFormat.parse] at h
  split at h
  · next hread =>
    cases h
    exact .inl (Source.isFault_of_read hfile hread)
  · next loc s hread =>
    split at h
    · next failure hjson =>
      obtain ⟨cause, left⟩ := failure
      cases h
      cases cause with
      | longInteger digits => exact .inr (.integer hfind hread hjson)
      | _ => exact .inl ⟨_, rfl⟩
    · next document _ =>
      have hdocument := Document.documented_ofData p document
      rw [h, documented_error_iff] at hdocument
      exact .inl hdocument

theorem YamlFormat.isFault_or_undocumented_of_parse (hfind : Formats.standard.find p = some .yaml)
    (hfile : store.isFile p = .ok true) (h : YamlFormat.parse store p = .error e) :
    e.IsFault ∨ Undocumented store p e := by
  rw [YamlFormat.parse] at h
  split at h
  · next hread =>
    cases h
    exact .inl (Source.isFault_of_read hfile hread)
  · next loc s hread =>
    split at h
    · next failure hyaml =>
      cases h
      cases failure with
      | invalidCode code => exact .inr (.escape hfind hread hyaml)
      | longNumber digits => exact .inr (.version hfind hread hyaml)
      | _ => exact .inl ⟨_, rfl⟩
    · cases h
    · cases h
    · next document _ _ =>
      have hdocument := Document.documented_ofData p document
      rw [h, documented_error_iff] at hdocument
      exact .inl hdocument

theorem Formats.mem_of_find {formats : Formats} {f : LayoutFormat}
    (h : Formats.find formats p = some f) : f ∈ formats.members := by
  rw [Formats.find, Chain.find?] at h
  exact List.mem_of_find?_eq_some h

/-- What reading a file comes to where a format is found and the path leads to a file. -/
theorem Formats.parse_of_find {formats : Formats} {f : LayoutFormat}
    (hfind : Formats.find formats p = some f) (hfile : store.isFile p = .ok true) :
    (Formats.parse formats store p).2 = (f.parse store p).2.map (Descriptor.stampSources p.text) := by
  rw [Formats.parse, hfind, hfile]

theorem Undocumented.parse_eq (h : Undocumented store p e) :
    (Formats.parse Formats.standard store p).2 = .error e := by
  have hfile : ∀ {a}, Source.read store p = .ok a → store.isFile p = .ok true := fun {a} h => by
    rw [Source.read] at h
    split at h
    · cases h
    · next hread => exact FileStore.isFile_eq_true_iff.2 ⟨_, hread⟩
  cases h with
  | path hfind hlocate =>
    rw [Formats.parse, hfind, FileStore.isFile_eq_error_iff.2 ⟨hlocate, rfl⟩]
  | integer hfind hread hjson =>
    rw [Formats.parse_of_find hfind (hfile hread)]
    simp only [LayoutFormat.json, JsonFormat.parse, hread, hjson]
    rfl
  | version hfind hread hyaml =>
    rw [Formats.parse_of_find hfind (hfile hread)]
    simp only [LayoutFormat.yaml, YamlFormat.parse, hread, hyaml]
    rfl
  | escape hfind hread hyaml =>
    rw [Formats.parse_of_find hfind (hfile hread)]
    simp only [LayoutFormat.yaml, YamlFormat.parse, hread, hyaml]
    rfl

theorem Formats.isFault_or_undocumented_of_parse
    (h : (Formats.parse Formats.standard store p).2 = .error e) :
    e.IsFault ∨ Undocumented store p e := by
  cases hfind : Formats.find Formats.standard p with
  | none =>
    rw [Formats.parse, hfind] at h
    cases h
    exact .inl ⟨_, rfl⟩
  | some f =>
    cases hfile : store.isFile p with
    | error reason =>
      rw [Formats.parse, hfind, hfile] at h
      cases h
      obtain ⟨hlocate, rfl⟩ := FileStore.isFile_eq_error_iff.1 hfile
      exact .inr (.path hfind hlocate)
    | ok found =>
      cases found with
      | false =>
        rw [Formats.parse, hfind, hfile] at h
        cases h
        exact .inl ⟨_, rfl⟩
      | true =>
        rw [Formats.parse_of_find hfind hfile] at h
        -- The sources of the nodes are put down afterwards, which cannot fail.
        have hf : (f.parse store p).2 = .error e := by
          cases hparse : (f.parse store p).2 with
          | ok ds => rw [hparse] at h; cases h
          | error e' => rw [hparse] at h; exact h
        have hmem := Formats.mem_of_find hfind
        simp only [Formats.standard, List.mem_cons, List.not_mem_nil, or_false] at hmem
        obtain rfl | rfl | rfl | rfl := hmem
        · exact .inl (TextFormat.isFault_of_parse hfile hf)
        · exact JsonFormat.isFault_or_undocumented_of_parse hfind hfile hf
        · exact .inl (XmlFormat.isFault_of_parse hfile hf)
        · exact YamlFormat.isFault_or_undocumented_of_parse hfind hfile hf

end

/-- A file with an escape one past the last character. -/
def wideEscapeStore : FileStore :=
  ⟨[(["a.yaml"], .file "\"\\U00110000\"".toUTF8)], []⟩

end LayoutTree
