import LayoutTree.Proofs.Layout.Keyed
import Mathlib.Data.List.Basic
import Mathlib.Logic.Function.Basic

/-!
# Properties as an ordered map

An ordered map has keys in order and a property under each (`KeyMap`). A property that is set takes
the place of the one with its key or comes last, keys can be removed, and missing keys can be filled
in from a list, in front.

The properties of a descriptor are kept in a list that is searched through each time. As long as no
two of them have the same key, which nothing changes, the list is an ordered map (`refines_edits`).
-/

namespace LayoutTree

open LayoutTree.Text

/-- An ordered map from keys to properties with these keys. -/
structure KeyMap where
  /-- The keys in order. -/
  order : List String
  /-- The property under a key. -/
  at? : String → Option Property
  nodup : order.Nodup
  isSome_at? : ∀ key, (at? key).isSome = true ↔ key ∈ order
  key_of_at? : ∀ {key p}, at? key = some p → p.key = key

namespace KeyMap

variable (m : KeyMap)

/-- The properties in order. -/
def entries : List Property := m.order.filterMap m.at?

/-- The map that a list of properties with different keys stands for. -/
def ofProperties (ps : List Property) (h : (ps.map Property.key).Nodup) : KeyMap where
  order := ps.map Property.key
  at? key := firstWith key ps
  nodup := h
  isSome_at? _ := isSome_firstWith
  key_of_at? := key_of_firstWith

/-- A property put under its key: in the place of the one that is there, or as the last one. -/
def set (entry : Property) : KeyMap where
  order := if entry.key ∈ m.order then m.order else m.order ++ [entry.key]
  at? := Function.update m.at? entry.key (some entry)
  nodup := by
    split
    · exact m.nodup
    · next h => exact List.nodup_append.2 ⟨m.nodup, List.pairwise_singleton _ _, by
        rintro a ha b hb rfl
        exact h (List.mem_singleton.1 hb ▸ ha)⟩
  isSome_at? key := by
    by_cases hkey : key = entry.key
    · subst hkey
      rw [Function.update_self]
      by_cases h : entry.key ∈ m.order <;> simp [h]
    · rw [Function.update_of_ne hkey, m.isSome_at?]
      by_cases h : entry.key ∈ m.order <;> simp [h, hkey]
  key_of_at? := by
    intro key p h
    by_cases hkey : key = entry.key
    · subst hkey
      rw [Function.update_self] at h
      rw [Option.some.inj h]
    · rw [Function.update_of_ne hkey] at h
      exact m.key_of_at? h

/-- The map without some keys. -/
def remove (keys : List String) : KeyMap where
  order := m.order.filter (· ∉ keys)
  at? key := if key ∈ keys then none else m.at? key
  nodup := m.nodup.filter _
  isSome_at? key := by
    by_cases h : key ∈ keys <;> simp [h, m.isSome_at?]
  key_of_at? := by
    intro key p h
    split at h
    · cases h
    · exact m.key_of_at? h

/-- The properties under some keys, in the order of the map. -/
def under (keys : List String) : List Property :=
  (m.order.filter (· ∈ keys)).filterMap m.at?

/-- The keys that are missing put in front, each with the first property that has it. -/
def fill (ps : List Property) : KeyMap where
  order := ((firstOfEach ps).map Property.key).filter (· ∉ m.order) ++ m.order
  at? key := (m.at? key).or (firstWith key ps)
  nodup := by
    refine List.nodup_append.2 ⟨(nodup_firstOfEach ps).filter _, m.nodup, ?_⟩
    rintro a ha b hb rfl
    simp [hb] at ha
  isSome_at? key := by
    rw [Option.isSome_or, Bool.or_eq_true, m.isSome_at?, isSome_firstWith, List.mem_append,
      List.mem_filter, mem_keys_firstOfEach, decide_eq_true_eq]
    by_cases h : key ∈ m.order <;> simp [h]
  key_of_at? := by
    intro key p h
    rcases Option.or_eq_some_iff.1 h with h | ⟨-, h⟩
    · exact m.key_of_at? h
    · exact key_of_firstWith h

/-! ## The properties of a map -/

theorem map_key_filterMap_at? {keys : List String} (h : keys ⊆ m.order) :
    (keys.filterMap m.at?).map Property.key = keys := by
  induction keys with
  | nil => rfl
  | cons key keys ih =>
    obtain ⟨hkey, hkeys⟩ := List.cons_subset.1 h
    obtain ⟨p, hp⟩ := Option.isSome_iff_exists.1 ((m.isSome_at? key).2 hkey)
    rw [List.filterMap_cons_some hp, List.map_cons, m.key_of_at? hp, ih hkeys]

theorem map_key_entries : m.entries.map Property.key = m.order :=
  m.map_key_filterMap_at? (List.Subset.refl _)

theorem nodup_entries : (m.entries.map Property.key).Nodup := by
  rw [map_key_entries]
  exact m.nodup

theorem mem_entries {p : Property} : p ∈ m.entries ↔ m.at? p.key = some p := by
  rw [entries, List.mem_filterMap]
  constructor
  · rintro ⟨key, -, h⟩
    rwa [m.key_of_at? h]
  · exact fun h => ⟨p.key, (m.isSome_at? _).1 (Option.isSome_iff_exists.2 ⟨p, h⟩), h⟩

theorem firstWith_entries (key : String) : firstWith key m.entries = m.at? key := by
  cases h : m.at? key with
  | none =>
    rw [firstWith_eq_none_iff, map_key_entries, ← m.isSome_at?, h]
    exact Bool.false_ne_true
  | some p =>
    obtain ⟨q, hq⟩ : ∃ q, firstWith key m.entries = some q := by
      rw [← Option.isSome_iff_exists, isSome_firstWith, map_key_entries, ← m.isSome_at?, h]
      rfl
    have hmem := m.mem_entries.1 (List.mem_of_find?_eq_some hq)
    rw [key_of_firstWith hq, h] at hmem
    rw [hq, hmem]

theorem entries_ofProperties (ps : List Property) (h : (ps.map Property.key).Nodup) :
    (ofProperties ps h).entries = ps := by
  have hself : ∀ p ∈ ps, firstWith p.key ps = some p := by
    intro p hp
    induction ps with
    | nil => cases hp
    | cons q ps ih =>
      obtain ⟨hq, hps⟩ := List.nodup_cons.1 h
      rw [firstWith_cons]
      rcases List.mem_cons.1 hp with rfl | hp
      · exact if_pos rfl
      · rw [if_neg fun heq => hq (List.mem_map.2 ⟨p, hp, heq.symm⟩)]
        exact ih hps hp
  change (ps.map Property.key).filterMap (fun key => firstWith key ps) = ps
  rw [List.filterMap_map]
  exact (List.filterMap_congr hself).trans List.filterMap_some

/-! ## Operations on lists and on maps -/

/-- A property set in the list of a map is put into the map. -/
theorem setProperty_entries (entry : Property) :
    setProperty entry false m.entries = (m.set entry).entries := by
  by_cases h : entry.key ∈ m.order
  · have horder : (m.set entry).order = m.order := if_pos h
    rw [setProperty_of_mem m.nodup_entries (by rwa [map_key_entries]), entries, entries, horder,
      List.map_filterMap]
    refine List.filterMap_congr fun key _ => ?_
    change _ = Function.update m.at? entry.key (some entry) key
    by_cases hkey : key = entry.key
    · subst hkey
      obtain ⟨p, hp⟩ := Option.isSome_iff_exists.1 ((m.isSome_at? _).2 h)
      rw [Function.update_self, hp, Option.map_some, if_pos (m.key_of_at? hp)]
    · rw [Function.update_of_ne hkey]
      cases hp : m.at? key with
      | none => rfl
      | some p => rw [Option.map_some, if_neg (m.key_of_at? hp ▸ hkey)]
  · have horder : (m.set entry).order = m.order ++ [entry.key] := if_neg h
    have hself : (m.set entry).at? entry.key = some entry := Function.update_self ..
    have hothers : ∀ key ∈ m.order, (m.set entry).at? key = m.at? key := by
      rintro key hkey
      exact Function.update_of_ne (fun heq : key = entry.key => h (heq ▸ hkey)) ..
    rw [setProperty_of_notMem (by rwa [map_key_entries]), if_neg Bool.false_ne_true, entries,
      entries, horder, List.filterMap_append, List.filterMap_congr hothers,
      List.filterMap_cons_some hself, List.filterMap_nil]

theorem filter_entries (f : String → Bool) :
    m.entries.filter (fun p => f p.key) = (m.order.filter f).filterMap m.at? := by
  rw [entries, List.filter_filterMap, List.filterMap_filter]
  refine List.filterMap_congr fun key hkey => ?_
  obtain ⟨p, hp⟩ := Option.isSome_iff_exists.1 ((m.isSome_at? _).2 hkey)
  rw [hp, Option.filter_some, m.key_of_at? hp]

/-- The list of a map without the properties under some keys is that of the map without these. -/
theorem filter_notMem_entries (keys : List String) :
    m.entries.filter (fun p => !keys.contains p.key) = (m.remove keys).entries := by
  have hkept : ∀ key ∈ (m.remove keys).order, (m.remove keys).at? key = m.at? key := by
    intro key hkey
    have hkey : key ∈ m.order ∧ key ∉ keys := by simpa [remove] using hkey
    exact if_neg hkey.2
  rw [filter_entries m fun key => !keys.contains key, entries, List.filterMap_congr hkept]
  simp [remove]

/-- The missing properties in front of the list of a map are filled into the map. -/
theorem missingFrom_append_entries (ps : List Property) :
    missingFrom m.order ps ++ m.entries = (m.fill ps).entries := by
  have hfilled : ((m.fill ps).order.filterMap (m.fill ps).at?) =
      (((firstOfEach ps).map Property.key).filter (· ∉ m.order)).filterMap (m.fill ps).at? ++
        m.order.filterMap (m.fill ps).at? := List.filterMap_append
  have hkept : ∀ key ∈ m.order, (m.fill ps).at? key = m.at? key := by
    intro key hkey
    obtain ⟨p, hp⟩ := Option.isSome_iff_exists.1 ((m.isSome_at? _).2 hkey)
    change (m.at? key).or _ = _
    rw [hp, Option.some_or]
  have hnew : ∀ key ∈ ((firstOfEach ps).map Property.key).filter (· ∉ m.order),
      (m.fill ps).at? key = firstWith key (firstOfEach ps) := by
    intro key hkey
    have hnone : m.at? key = none := by
      rw [← Option.not_isSome_iff_eq_none, m.isSome_at?]
      simpa using (List.mem_filter.1 hkey).2
    change (m.at? key).or _ = _
    rw [hnone, Option.none_or, firstWith_firstOfEach]
  have hfirst := entries_ofProperties (firstOfEach ps) (nodup_firstOfEach ps)
  have hlist := filter_entries (ofProperties (firstOfEach ps) (nodup_firstOfEach ps))
    fun key => decide (key ∉ m.order)
  rw [hfirst] at hlist
  rw [missingFrom_eq, apartFrom, hlist, entries, entries, hfilled, List.filterMap_congr hkept,
    List.filterMap_congr hnew]
  rfl

end KeyMap

/-! ## Edits -/

/-- A change to the properties of a descriptor. -/
inductive Edit
  /-- A property is set. -/
  | set (name : String) (value : Option String)
  /-- The properties of some names are taken out. -/
  | take (names : List String)
  /-- Missing defaults are put in front. -/
  | mergeDefaults (defaults : List Property)

namespace Descriptor

/-- What an edit takes out, and the descriptor after it. -/
def edit (d : Descriptor) : Edit → List Property × Descriptor
  | .set name value => ([], d.set name value)
  | .take names => d.take names
  | .mergeDefaults defaults => ([], d.mergeDefaults defaults)

/-- What each of several edits takes out, and the descriptor after them. -/
def edits (d : Descriptor) : List Edit → List (List Property) × Descriptor
  | [] => ([], d)
  | e :: rest => ((d.edit e).1 :: ((d.edit e).2.edits rest).1, ((d.edit e).2.edits rest).2)

end Descriptor

namespace KeyMap

/-- What an edit takes out, and the map after it. -/
def edit (m : KeyMap) : Edit → List Property × KeyMap
  | .set name value => ([], m.set ⟨name, value⟩)
  | .take names => (m.under (names.map folded), m.remove (names.map folded))
  | .mergeDefaults defaults => ([], m.fill defaults)

/-- What each of several edits takes out, and the map after them. -/
def edits (m : KeyMap) : List Edit → List (List Property) × KeyMap
  | [] => ([], m)
  | e :: rest => ((m.edit e).1 :: ((m.edit e).2.edits rest).1, ((m.edit e).2.edits rest).2)

end KeyMap

namespace Descriptor

variable {d : Descriptor} {m : KeyMap}

/-- The properties of a descriptor are those of a map, and looking them up gives what it gives in the
map. A name alone is there without a value. -/
structure Refines (d : Descriptor) (m : KeyMap) : Prop where
  properties : d.properties = m.entries
  distinct : (d.properties.map Property.key).Nodup
  get : ∀ name, d.get name = (m.at? (folded name)).bind (·.value)
  has : ∀ name, d.has name = (m.at? (folded name)).isSome
  keys : d.keys = m.order

/-- It is enough that the properties are those of the map. -/
theorem refines_of_properties (h : d.properties = m.entries) : d.Refines m where
  properties := h
  distinct := h ▸ m.nodup_entries
  get name := by
    rw [get, valueOf_eq, h, lastWith_of_nodup m.nodup_entries, m.firstWith_entries]
  has name := by
    rw [has, h, ← m.firstWith_entries, firstWith, Bool.eq_iff_iff, List.find?_isSome,
      List.any_eq_true]
  keys := by
    have hnone : apartFrom [] m.entries = m.entries :=
      apartFrom_eq_self fun _ _ => List.not_mem_nil
    rw [keys, h, missingFrom_eq, firstOfEach_of_nodup m.nodup_entries, hnone, m.map_key_entries]

/-- An edit does to the properties what it does to the map, and takes out the same. -/
theorem edit_eq (h : d.properties = m.entries) (e : Edit) :
    d.edit e = ((m.edit e).1, { d with properties := (m.edit e).2.entries }) := by
  cases e with
  | set name value => rw [edit, set, h, m.setProperty_entries, KeyMap.edit]
  | take names =>
    have hunder : m.entries.filter (fun p => (names.map folded).contains p.key) =
        m.under (names.map folded) := by
      rw [m.filter_entries fun key => (names.map folded).contains key, KeyMap.under]
      simp
    rw [edit, take, h, hunder, m.filter_notMem_entries, KeyMap.edit]
  | mergeDefaults defaults =>
    rw [edit, mergeDefaults, h, m.map_key_entries, m.missingFrom_append_entries, KeyMap.edit]

theorem edits_eq (h : d.properties = m.entries) (es : List Edit) :
    d.edits es = ((m.edits es).1, { d with properties := (m.edits es).2.entries }) := by
  induction es generalizing d m with
  | nil =>
    rw [edits, KeyMap.edits, ← h]
    cases d
    rfl
  | cons e rest ih =>
    have hrest : (d.edit e).2.properties = (m.edit e).2.entries := by rw [edit_eq h]
    rw [edits, ih hrest, edit_eq h, KeyMap.edits]

/-- Defaults that were merged are not missing any more. -/
theorem mergeDefaults_mergeDefaults (d : Descriptor) (defaults : List Property) :
    (d.mergeDefaults defaults).mergeDefaults defaults = d.mergeDefaults defaults := by
  have hnone : missingFrom ((d.mergeDefaults defaults).properties.map Property.key) defaults =
      [] := by
    rw [missingFrom_eq, apartFrom, List.filter_eq_nil_iff]
    intro p hp
    have hmem : p.key ∈ (d.mergeDefaults defaults).properties.map Property.key :=
      mem_keys_missingFrom_append.2
        (.inl (List.mem_map_of_mem ((firstOfEach_sublist _).subset hp)))
    simpa using hmem
  rw [mergeDefaults, hnone, List.nil_append]
  cases d.mergeDefaults defaults
  rfl

/-- **The properties of a descriptor are an ordered map.** If no two have the same key to begin with,
then after any edits no two do, and setting, taking and merging defaults does to the descriptor what
it does to the map of its properties, takes out the same properties, and changes nothing else.
Merging the same defaults once more changes nothing. -/
theorem refines_edits (d : Descriptor) (h : (d.properties.map Property.key).Nodup)
    (es : List Edit) :
    let m := KeyMap.ofProperties d.properties h
    let d' := (d.edits es).2
    (d.edits es).1 = (m.edits es).1 ∧ d'.Refines (m.edits es).2 ∧
      { d' with properties := d.properties } = d ∧
      ∀ defaults, (d'.mergeDefaults defaults).mergeDefaults defaults = d'.mergeDefaults defaults := by
  intro m d'
  have hedits := edits_eq (KeyMap.entries_ofProperties d.properties h).symm es
  have hd : d' = { d with properties := (m.edits es).2.entries } := congrArg Prod.snd hedits
  refine ⟨congrArg Prod.fst hedits, refines_of_properties (by rw [hd]), ?_,
    mergeDefaults_mergeDefaults d'⟩
  rw [hd]
  cases d
  rfl

/-- A button with a name alone. -/
def bareButton : Descriptor :=
  { ofType "Button" with properties := [⟨"Width", some "80"⟩, ⟨"Default", none⟩] }

/-- Edits in which names come in several spellings, and one key twice among the defaults. -/
def mixedEdits : List Edit := [
  .mergeDefaults [⟨"Font", some "a"⟩, ⟨"WIDTH", some "1"⟩, ⟨"font", none⟩],
  .set "DEFAULT" (some "true"),
  .take ["fOnT", "Height", "width"],
  .set "Width" none]

theorem refines_edits_bareButton :
    ∃ h : (bareButton.properties.map Property.key).Nodup,
      let m := KeyMap.ofProperties bareButton.properties h
      let d' := (bareButton.edits mixedEdits).2
      (bareButton.edits mixedEdits).1 =
          [[], [], [⟨"Font", some "a"⟩, ⟨"Width", some "80"⟩], []] ∧
        (bareButton.edits mixedEdits).1 = (m.edits mixedEdits).1 ∧
        d'.properties = [⟨"DEFAULT", some "true"⟩, ⟨"Width", none⟩] ∧
        d'.Refines (m.edits mixedEdits).2 := by
  have h : (bareButton.properties.map Property.key).Nodup := by decide +kernel
  obtain ⟨htaken, hrefines, -⟩ := refines_edits bareButton h mixedEdits
  exact ⟨h, by decide +kernel, htaken, by decide +kernel, hrefines⟩

end Descriptor

end LayoutTree
