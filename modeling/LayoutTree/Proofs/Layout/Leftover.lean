import LayoutTree.Proofs.Layout.Precedence
import LayoutTree.Proofs.Layout.Provenance

/-!
# Directives that are left over

The properties by which a node takes properties and children from files are directives, and they are
taken out of the node: those for properties before the files assign properties of their own, those
for children before the defaults are put in. What comes later is not taken out any more.

* `directivesConsumed_iff`: no directive is left on any node of a forest exactly if no file with
  properties assigns one for properties, and no line puts one in as a default, nor a default content
  in place of one that was taken.
-/

namespace LayoutTree

open LayoutTree.Text LayoutTree.Layout

namespace TextFormat

/-- A line whose content names a file with children stands for a node, apart from its children. -/
def TakesContentFor (store : FileStore) (normalize : String → Except String String)
    (file : FilePath) (b : Descriptor) : Prop :=
  ∃ v state text d, Contributes store normalize file v ∧ v.Places store normalize state text d ∧
    takesContent (givenProperties store v.file text) = true ∧ d.alone = b.alone

/-- No node of the forest of a root file has a directive, and none has a content if one was taken for
a file with children. -/
structure DirectivesConsumed (store : FileStore) (normalize : String → Except String String)
    (file : FilePath) : Prop where
  names : ∀ forest, (parse store normalize file).2 = .ok forest →
    ∀ b ∈ Descriptor.walkAll forest, ∀ name ∈ includeNames, b.has name = false
  content : ∀ forest, (parse store normalize file).2 = .ok forest →
    ∀ b ∈ Descriptor.walkAll forest, TakesContentFor store normalize file b →
      b.has contentName = false

/-- What a node line takes from files and from the defaults holds no directive that comes too late. -/
structure BringsNoDirective (store : FileStore) (file : FilePath) (state : Reading)
    (text : List Char) : Prop where
  files : ∀ key ∈ propertiesFileKeys,
    key ∉ (fileProperties store file (propertiesFiles text)).map Property.key
  defaults : ∀ key ∈ propertiesFileKeys ++ childrenFileKeys,
    key ∉ (state.defaults.entries (lineType state.defaultsType text)).map Property.key
  content : takesContent (givenProperties store file text) = true → folded contentName ∉
    (state.defaults.entries (lineType state.defaultsType text)).map Property.key

/-! ## The keys of a node -/

section Line

variable {env : Surroundings} {file : FilePath} {state : Reading} {text : List Char}
  {d : Descriptor}

theorem mem_keys_of_readNode (h : (readNode env file state text).2 = .ok d) {key : String} :
    key ∈ d.properties.map Property.key ↔
      key ∈ (state.defaults.entries (lineType state.defaultsType text)).map Property.key ∨
        key ∈ (givenProperties env.store file text).map Property.key ∧
          key ∉ takenKeys (givenProperties env.store file text) := by
  rw [(properties_of_readNode h).2, mem_keys_missingFrom_append, withoutIncludes,
    mem_keys_apartFrom]

/-- The line's own directives for properties are taken out, and those of the files are not. -/
theorem mem_keys_givenProperties {store : FileStore} {key : String}
    (hkey : key ∈ propertiesFileKeys) :
    key ∈ (givenProperties store file text).map Property.key ↔
      key ∈ (fileProperties store file (propertiesFiles text)).map Property.key := by
  have hown : key ∉ (apartFrom propertiesFileKeys (lineProperties text)).map Property.key :=
    fun h => (mem_keys_apartFrom.1 h).2 hkey
  rw [givenProperties, List.map_append, List.mem_append, mem_keys_missingFrom, or_iff_right hown,
    and_iff_left hown]

/-- Children are taken after the files with properties were read, so the directives for them are
gone, wherever they came from; only the defaults can bring them back. -/
theorem mem_keys_iff_of_mem_takenKeys (h : (readNode env file state text).2 = .ok d) {key : String}
    (hkey : key ∈ takenKeys (givenProperties env.store file text)) :
    key ∈ d.properties.map Property.key ↔
      key ∈ (state.defaults.entries (lineType state.defaultsType text)).map Property.key := by
  rw [mem_keys_of_readNode h, or_iff_left fun hgiven => hgiven.2 hkey]

/-- Directives for properties were taken out before the files with properties were read. -/
theorem mem_keys_iff_of_mem_propertiesFileKeys (h : (readNode env file state text).2 = .ok d)
    {key : String} (hkey : key ∈ propertiesFileKeys) :
    key ∈ d.properties.map Property.key ↔
      key ∈ (state.defaults.entries (lineType state.defaultsType text)).map Property.key ∨
        key ∈ (fileProperties env.store file (propertiesFiles text)).map Property.key := by
  have hkept : key ∉ takenKeys (givenProperties env.store file text) := by
    have hother : ∀ key ∈ propertiesFileKeys, key ∉ folded contentName :: childrenFileKeys := by
      decide +kernel
    rw [takenKeys]
    split
    · exact hother key hkey
    · exact fun hmem => hother key hkey (List.mem_cons_of_mem _ hmem)
  rw [mem_keys_of_readNode h, mem_keys_givenProperties hkey, and_iff_left hkept]

/-- **A node line leaves no directive** exactly if it brings none too late. -/
theorem bringsNoDirective_iff (h : (readNode env file state text).2 = .ok d) :
    BringsNoDirective env.store file state text ↔ (∀ name ∈ includeNames, d.has name = false) ∧
      (takesContent (givenProperties env.store file text) = true → d.has contentName = false) := by
  have hhas : ∀ name, d.has name = false ↔ folded name ∉ d.properties.map Property.key := by
    intro name
    rw [← Bool.not_eq_true, has_iff]
  have hnames : (∀ name ∈ includeNames, d.has name = false) ↔
      (∀ key ∈ propertiesFileKeys, key ∉ d.properties.map Property.key) ∧
        ∀ key ∈ childrenFileKeys, key ∉ d.properties.map Property.key := by
    simp only [hhas, includeNames, List.forall_mem_append, propertiesFileKeys, childrenFileKeys,
      List.forall_mem_map]
  have hchildren : childrenFileKeys ⊆ takenKeys (givenProperties env.store file text) := by
    rw [takenKeys]
    split
    · exact List.subset_cons_self _ _
    · exact List.Subset.refl _
  have hproperties : (∀ key ∈ propertiesFileKeys, key ∉ d.properties.map Property.key) ↔
      (∀ key ∈ propertiesFileKeys,
        key ∉ (state.defaults.entries (lineType state.defaultsType text)).map Property.key) ∧
      ∀ key ∈ propertiesFileKeys,
        key ∉ (fileProperties env.store file (propertiesFiles text)).map Property.key := by
    simp only [← forall_and, ← not_or]
    exact forall₂_congr fun key hkey =>
      not_congr (mem_keys_iff_of_mem_propertiesFileKeys h hkey)
  have hincludes : (∀ key ∈ childrenFileKeys, key ∉ d.properties.map Property.key) ↔
      ∀ key ∈ childrenFileKeys,
        key ∉ (state.defaults.entries (lineType state.defaultsType text)).map Property.key :=
    forall₂_congr fun key hkey => not_congr (mem_keys_iff_of_mem_takenKeys h (hchildren hkey))
  have hcontent : (takesContent (givenProperties env.store file text) = true →
        folded contentName ∉ d.properties.map Property.key) ↔
      (takesContent (givenProperties env.store file text) = true → folded contentName ∉
        (state.defaults.entries (lineType state.defaultsType text)).map Property.key) := by
    refine imp_congr_right fun htakes => not_congr (mem_keys_iff_of_mem_takenKeys h ?_)
    rw [takenKeys, if_pos htakes]
    exact List.mem_cons_self
  rw [hnames, hhas, hproperties, hincludes, hcontent]
  constructor
  · rintro ⟨hfiles, hdefaults, hleft⟩
    obtain ⟨hfirst, hlast⟩ := List.forall_mem_append.1 hdefaults
    exact ⟨⟨⟨hfirst, hfiles⟩, hlast⟩, hleft⟩
  · rintro ⟨⟨⟨hfirst, hfiles⟩, hlast⟩, hleft⟩
    exact ⟨hfiles, List.forall_mem_append.2 ⟨hfirst, hlast⟩, hleft⟩

end Line

/-! ## The nodes of a forest -/

/-- **Directives are consumed** in the forest of a root file exactly if no line that stands for a
node of it brings one too late: among the properties that a file assigns, one for further properties;
among the defaults, any, and a content where the one that the line gives or takes from a file names a
file with children. Directives for children that a file with properties assigns are consumed. -/
theorem directivesConsumed_iff (store : FileStore) (normalize : String → Except String String)
    (file : FilePath) : DirectivesConsumed store normalize file ↔
      ∀ v state text d, Contributes store normalize file v →
        v.Places store normalize state text d → BringsNoDirective store v.file state text := by
  have hnames := @forall_walkAll_iff store normalize file
    (fun b => ∀ name ∈ includeNames, b.has name = false) fun _ => Iff.rfl
  have hcontent := @forall_walkAll_iff store normalize file
    (fun b => TakesContentFor store normalize file b → b.has contentName = false) fun _ => Iff.rfl
  have hline : ∀ {v : Visit} {state text d}, v.Places store normalize state text d →
      (BringsNoDirective store v.file state text ↔ (∀ name ∈ includeNames, d.has name = false) ∧
        (takesContent (givenProperties store v.file text) = true → d.has contentName = false)) := by
    rintro v state text d ⟨content, -, before, line, rest, -, -, hplaces⟩
    exact bringsNoDirective_iff hplaces.node
  constructor
  · rintro ⟨hforest, htaken⟩ v state text d hv hplaces
    refine (hline hplaces).2 ⟨hnames.1 hforest v state text d hv hplaces, fun htakes => ?_⟩
    exact hcontent.1 htaken v state text d hv hplaces ⟨v, state, text, d, hv, hplaces, htakes, rfl⟩
  · intro h
    refine ⟨hnames.2 fun v state text d hv hplaces => ?_, hcontent.2 fun _ _ _ b _ _ => ?_⟩
    · exact ((hline hplaces).1 (h v state text d hv hplaces)).1
    · rintro ⟨v, state, text, d, hv, hplaces, htakes, halone⟩
      have hgone := ((hline hplaces).1 (h v state text d hv hplaces)).2 htakes
      exact (congrArg (fun d => d.has contentName) halone).symm.trans hgone

/-- The content of a line is taken for a file with children, and a default takes its place. -/
def contentStore : FileStore where
  entries := [
    (["a.txt"], .file "Control=Border\nContent=Ok\nBorder;Content=b.txt".toUTF8),
    (["b.txt"], .file "Label".toUTF8)]
  workingDirectory := []

/-- The reading of its root file. -/
def contentVisit : Visit :=
  ⟨[["a.txt"]], .ofString "a.txt", "Control=Border\nContent=Ok\nBorder;Content=b.txt".toUTF8⟩

/-- What its lines before the last have established. -/
def contentState : Reading :=
  { Reading.start with
    defaultsType := some "Border", defaults := ⟨[("border", [⟨"Content", some "Ok"⟩])]⟩ }

/-- The last line of the root file stands for a node. -/
theorem exists_places_contentVisit : ∃ d,
    contentVisit.Places contentStore .ok contentState "Border;Content=b.txt".toList d := by
  let env := contentVisit.surroundings contentStore .ok
  let before := ["Control=Border".toList, "Content=Ok".toList]
  let line := "Border;Content=b.txt".toList
  have hstate : after env contentVisit.file .start before = contentState := by rfl
  have hline : Line.classify contentState.defaultsType.isSome (trim line) = .node line := by rfl
  obtain ⟨inclusion, hread⟩ : ∃ inclusion, env.children (.ofString "b.txt") = .ok inclusion := by
    have hfile : contentStore.read (.ofString "b.txt") = .ok (["b.txt"], "Label".toUTF8) := by rfl
    have hactive : (["b.txt"] : Location) ∉ contentVisit.active := by decide
    change ∃ inclusion, inclusionOf contentStore (readFile contentStore .ok) contentVisit.active
      (.ofString "b.txt") = .ok inclusion
    simp only [inclusionOf, hfile, List.contains_iff_mem, hactive, if_false, Source.decode_toUTF8]
    exact ⟨_, rfl⟩
  have hasked : ∀ p ∈ askedByLine env contentVisit.file contentState line,
      env.children p = .ok inclusion := by
    intro p hp
    have hnamed : namedByLine env contentVisit.file contentState line = [.ofString "b.txt"] := by rfl
    obtain rfl := List.mem_singleton.1 (hnamed ▸ askedByLine_subset _ _ _ _ hp)
    exact hread
  have hfault : (readLine env contentVisit.file contentState line).fault = none := by
    rw [readLine_congr hasked]
    cases inclusion with
    | absent => rfl
    | faulty e => rfl
    | nodes log forest => rfl
  obtain ⟨d, hnode, -⟩ := outline_of_node hline hfault
  have hcontent := Source.decode_toUTF8 contentVisit.file
    "Control=Border\nContent=Ok\nBorder;Content=b.txt"
  exact ⟨d, _, hcontent, before, line, [], by rfl, hstate.symm, hline, hfault, hnode⟩

theorem not_directivesConsumed_contentStore :
    ¬ DirectivesConsumed contentStore .ok (.ofString "a.txt") := by
  intro h
  have hroot : Contributes contentStore .ok (.ofString "a.txt") contentVisit := .root (by rfl)
  obtain ⟨d, hplaces⟩ := exists_places_contentVisit
  have hgone := (forall_walkAll_iff _ fun _ => Iff.rfl).1 h.content _ _ _ _ hroot hplaces
    ⟨_, _, _, d, hroot, hplaces, by decide +kernel, rfl⟩
  have hleft : d.has contentName = true := by
    obtain ⟨content, -, before, line, rest, -, -, hline⟩ := hplaces
    exact has_iff.2 ((mem_keys_of_readNode hline.node).2 (.inl (by decide +kernel)))
  rw [hleft] at hgone
  cases hgone

end TextFormat

end LayoutTree
