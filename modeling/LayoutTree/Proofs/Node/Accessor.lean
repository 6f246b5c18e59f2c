import LayoutTree.Proofs.Files.Naming
import LayoutTree.Proofs.Node.Named
import LayoutTree.Proofs.Text.Folding

/-!
# Properties by their names

The table of a class has one property for each key, made from a slot that the class declares
(`nodup_accessors`, `exists_declaration_of_mem`). So a property is found under the names that have
the key of its slot, and under no others (`accessor?_eq_some_iff`).

The name of a property is made from its slot, with a capital letter at the start of each word. It
has the key of the slot unless that capital folds to something else than the first letter of the
word does, and this happens with a dotless i only (`propertyKey_layoutName_iff`).

* `addressed_iff`: a property is found under its slot, and under its own name exactly if no word of
  the slot starts with a dotless i.
-/

namespace LayoutTree

open LayoutTree.Text

/-! ## The key of a name -/

/-- Some word of a slot starts with a dotless i. -/
def HasDotlessInitial (slot : String) : Prop :=
  ∃ w ∈ splitAt '_' slot.toList, w.head? = some dotlessI

instance (slot : String) : Decidable (HasDotlessInitial slot) :=
  inferInstanceAs (Decidable (∃ w ∈ splitAt '_' slot.toList, w.head? = some dotlessI))

theorem fold_withInitial_iff {w : List Char} :
    fold (withInitial w) = fold w ↔ w.head? ≠ some dotlessI := by
  cases w with
  | nil => exact iff_of_true rfl (Option.some_ne_none _).symm
  | cons c s =>
    have hcons : fold (c :: s) = fold [c] ++ fold s := fold_append [c] s
    rw [withInitial, fold_append, hcons, List.append_left_inj, fold_upper_singleton_iff,
      List.head?_cons, Ne, Ne, Option.some.injEq]

/-- A capital initial makes a folded word no longer and no shorter. -/
theorem length_fold_withInitial (w : List Char) :
    (fold (withInitial w)).length = (fold w).length := by
  by_cases h : w.head? = some dotlessI
  · cases w with
    | nil => rfl
    | cons c s =>
      obtain rfl : c = dotlessI := Option.some.inj h
      have hinitial : (fold (upper [dotlessI])).length = (fold [dotlessI]).length := by
        decide +kernel
      rw [withInitial, fold_append, List.length_append, hinitial, ← List.length_append,
        ← fold_append, List.singleton_append]
  · rw [fold_withInitial_iff.2 h]

/-- An upper case has no underscore that the text did not have. -/
theorem underscore_notMem_withInitial {w : List Char} (h : '_' ∉ w) : '_' ∉ withInitial w := by
  cases w with
  | nil => exact h
  | cons c s =>
    rw [List.mem_cons, not_or] at h
    rw [withInitial, List.mem_append, not_or, upper, List.flatMap_singleton]
    refine ⟨fun hmem => h.1 ?_, h.2⟩
    have hc : c = '_' :=
      CaseMap.eq_of_mem_apply (by decide) (by decide +kernel) (by decide +kernel) hmem
    exact hc.symm

/-- Joined texts whose parts are of the same lengths are equal only if their parts are. -/
theorem flatMap_eq_iff {α : Type} {f g : α → List Char} {l : List α}
    (h : ∀ a ∈ l, (f a).length = (g a).length) :
    l.flatMap f = l.flatMap g ↔ ∀ a ∈ l, f a = g a := by
  induction l with
  | nil => simp
  | cons a l ih =>
    obtain ⟨ha, hl⟩ := List.forall_mem_cons.1 h
    rw [List.flatMap_cons, List.flatMap_cons, List.forall_mem_cons, ← ih hl]
    exact ⟨fun heq => List.append_inj heq ha, fun ⟨hf, hrest⟩ => by rw [hf, hrest]⟩

/-- The key of a slot is that of its words. -/
theorem toList_propertyKey (slot : String) :
    (propertyKey slot).toList = (splitAt '_' slot.toList).flatMap fold := by
  rw [propertyKey, onChars, String.toList_ofList, ← flatten_splitAt, List.flatten_eq_flatMap,
    fold_flatMap]
  rfl

/-- The key of the name behind a slot is that of its words with capital initials. -/
theorem toList_propertyKey_layoutName (slot : String) :
    (propertyKey (layoutName slot)).toList =
      (splitAt '_' slot.toList).flatMap fun w => fold (withInitial w) := by
  have hwhole : '_' ∉ (splitAt '_' slot.toList).flatMap withInitial := fun hmem => by
    obtain ⟨w, hw, hmem⟩ := List.mem_flatMap.1 hmem
    exact underscore_notMem_withInitial (notMem_of_mem_splitAt w hw) hmem
  have hname : (layoutName slot).toList = (splitAt '_' slot.toList).flatMap withInitial :=
    String.toList_ofList
  rw [propertyKey, onChars, String.toList_ofList, hname, ← fold_flatMap, without,
    List.filter_eq_self.2 fun c hc => by simpa using fun heq : c = '_' => hwhole (heq ▸ hc)]

/-- **The name of a property has the key of its slot** exactly if no word of the slot starts with a
dotless i. -/
theorem propertyKey_layoutName_iff {slot : String} :
    propertyKey (layoutName slot) = propertyKey slot ↔ ¬ HasDotlessInitial slot := by
  -- A folded word is as long with a capital initial, so the two keys can be compared word by word.
  rw [← String.toList_inj, toList_propertyKey_layoutName, toList_propertyKey,
    flatMap_eq_iff fun w _ => length_fold_withInitial w, HasDotlessInitial]
  simp only [fold_withInitial_iff, not_exists, not_and]

example : layoutName "max_ısı" = "MaxIsı" ∧ HasDotlessInitial "max_ısı" := by decide

/-! ## The table of a class -/

theorem putAccessor_eq (key : String) (a : Accessor) (table : List (String × Accessor)) :
    putAccessor key a table = putNamed key a table := by
  induction table with
  | nil => rfl
  | cons e table ih => rw [putAccessor, putNamed, ih]

namespace NodeClass

/-- What holds of the empty table, and is kept when a property of the class is put in, holds of the
table of the class. -/
theorem accessors_induction (c : NodeClass) {motive : List (String × Accessor) → Prop}
    (nil : motive [])
    (put : ∀ table, motive table → ∀ d ∈ c.declarations, isProperty d = true →
      motive (putNamed (propertyKey d.slot) (.ofDeclaration d) table)) : motive c.accessors := by
  refine List.foldlRecOn (motive := motive) _ _ nil fun table h d hd => ?_
  obtain ⟨hmem, hproperty⟩ := List.mem_filter.1 hd
  exact putAccessor_eq _ _ table ▸ put table h d hmem hproperty

/-- The table has each key once. -/
theorem nodup_accessors (c : NodeClass) : (c.accessors.map Prod.fst).Nodup :=
  c.accessors_induction (motive := fun table => (table.map Prod.fst).Nodup) List.nodup_nil
    fun _ h _ _ _ => nodup_putNamed _ _ h

/-- An entry of the table stands for a slot that the class declares. -/
theorem exists_declaration_of_mem {c : NodeClass} {e : String × Accessor} (h : e ∈ c.accessors) :
    ∃ d ∈ c.declarations, isProperty d = true ∧ e = (propertyKey d.slot, .ofDeclaration d) := by
  refine c.accessors_induction (motive := fun table => e ∈ table → ∃ d ∈ c.declarations,
    isProperty d = true ∧ e = (propertyKey d.slot, .ofDeclaration d)) (fun he => by cases he) ?_ h
  intro table ih d hd hproperty he
  rcases mem_putNamed he with rfl | he
  · exact ⟨d, hd, hproperty, rfl⟩
  · exact ih he

/-- The entries of a table lead to slots of their keys. -/
def KeysMatch (table : List (String × Accessor)) : Prop :=
  ∀ e ∈ table, propertyKey e.2.slot = e.1

theorem keysMatch_accessors (c : NodeClass) : KeysMatch c.accessors := by
  intro e he
  obtain ⟨d, -, -, rfl⟩ := exists_declaration_of_mem he
  rfl

/-- The slot behind a property has the key of the property. -/
theorem propertyKey_slot {c : NodeClass} {name : String} {a : Accessor}
    (h : c.accessor? name = some a) : propertyKey a.slot = propertyKey name := by
  have hmem : (propertyKey name, a) ∈ c.accessors := (lookup_eq_some_iff_mem c.nodup_accessors).1 h
  have hkey := c.keysMatch_accessors _ hmem
  exact hkey

/-- A property is found under the names that have the key of its slot. -/
theorem accessor?_eq_some_iff {c : NodeClass} {key : String} {a : Accessor}
    (h : (key, a) ∈ c.accessors) {name : String} :
    c.accessor? name = some a ↔ propertyKey name = propertyKey a.slot := by
  refine ⟨fun hname => (propertyKey_slot hname).symm, fun hname => ?_⟩
  have hkey := c.keysMatch_accessors _ h
  dsimp only at hkey
  rw [accessor?, lookup_eq_some_iff_mem c.nodup_accessors, hname, hkey]
  exact h

/-- **A property is found under its slot**, and under its name exactly if no word of the slot starts
with a dotless i. -/
theorem addressed_iff {c : NodeClass} {key : String} {a : Accessor} (h : (key, a) ∈ c.accessors) :
    c.accessor? a.slot = some a ∧ (c.accessor? a.name = some a ↔ ¬ HasDotlessInitial a.slot) := by
  have hname : a.name = layoutName a.slot := by
    obtain ⟨d, -, -, he⟩ := exists_declaration_of_mem h
    obtain ⟨-, rfl⟩ := Prod.mk.inj he
    rfl
  refine ⟨(accessor?_eq_some_iff h).2 rfl, ?_⟩
  rw [accessor?_eq_some_iff h, hname]
  exact propertyKey_layoutName_iff

/-- A class with two slots of one key, and two slots that differ only in the dot of their initial.
-/
def gauge : NodeClass :=
  .leaf "Gauge" [⟨"high__mark", .number, false⟩, ⟨"highMark", .integer, false⟩,
    ⟨"ısı", .number, false⟩, ⟨"isı", .text, false⟩]

theorem addressed_iff_highMark :
    ("highmark", ⟨"HighMark", "highMark", .integer⟩) ∈ gauge.accessors ∧
    gauge.accessor? "highMark" = some ⟨"HighMark", "highMark", .integer⟩ ∧
    (gauge.accessor? "HighMark" = some ⟨"HighMark", "highMark", .integer⟩ ↔
      ¬ HasDotlessInitial "highMark") := by
  have h : ("highmark", ⟨"HighMark", "highMark", .integer⟩) ∈ gauge.accessors := by
    decide +kernel
  obtain ⟨hslot, hname⟩ := addressed_iff h
  exact ⟨h, hslot, hname⟩

/-- The name of a property whose slot has a dotless initial leads to another property. -/
theorem not_addressed_dotlessSlot :
    ¬ (∀ e ∈ gauge.accessors,
      gauge.accessor? e.2.slot = some e.2 ∧ gauge.accessor? e.2.name = some e.2) ∧
    gauge.accessor? "ısı" = some ⟨"Isı", "ısı", .number⟩ ∧
    gauge.accessor? "Isı" = some ⟨"Isı", "isı", .text⟩ := by
  decide +kernel

end NodeClass

end LayoutTree
