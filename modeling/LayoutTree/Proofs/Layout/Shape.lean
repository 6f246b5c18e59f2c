import LayoutTree.Layout.Defaults

/-!
# Shapes of descriptors

Two descriptors say the same about a node if they agree in the type, the group, the value of each
property and the nodes below (`Shape`). Neither the order of properties nor the case in which their
names are written matters, and of several properties of one name the last one counts (`effective`).

Defaults reach a node in two ways: a node starts with them and its own properties are set in their
place (`effective_foldl_setProperty`), or those that it lacks are put in front of its own
(`effective_missingFrom_append`). Either way its properties are as if the defaults were written
before its own. A table of defaults holds what was added to it, type by type (`Defaults.Holds`).
-/

namespace LayoutTree

open LayoutTree.Text

/-- The raw value of the last property with a key, if there is any. -/
def effective (ps : List Property) (key : String) : Option (Option String) :=
  (ps.reverse.find? fun p => p.key = key).map (·.value)

/-- What is said about a node and the nodes below it: the type, the group, the raw value for each
key, and the nodes below. -/
inductive Shape
  | mk (typeName : String) (group : Option String) (values : String → Option (Option String))
      (children : List Shape)

namespace Descriptor

mutual

/-- What a descriptor says. -/
def shape : Descriptor → Shape
  | ⟨typeName, properties, group, children, _⟩ =>
    .mk typeName group (effective properties) (shapes children)

/-- What several descriptors say. -/
def shapes : List Descriptor → List Shape
  | [] => []
  | d :: ds => shape d :: shapes ds

end

end Descriptor

/-! ## Values by key -/

theorem effective_append (ps qs : List Property) (key : String) :
    effective (ps ++ qs) key = (effective qs key).or (effective ps key) := by
  rw [effective, List.reverse_append, List.find?_append, Option.map_or, effective, effective]

theorem effective_singleton (p : Property) (key : String) :
    effective [p] key = if p.key = key then some p.value else none := by
  simp only [effective, List.reverse_singleton, List.find?_singleton, decide_eq_true_eq]
  split <;> rfl

theorem effective_cons (p : Property) (ps : List Property) (key : String) :
    effective (p :: ps) key =
      (effective ps key).or (if p.key = key then some p.value else none) := by
  rw [← effective_singleton, ← effective_append, List.singleton_append]

/-- A key has no value if no property has the key. -/
theorem effective_eq_none_iff {ps : List Property} {key : String} :
    effective ps key = none ↔ key ∉ ps.map Property.key := by
  simp [effective, List.find?_eq_none]

/-! ## Own properties over defaults -/

theorem effective_setProperty (entry : Property) (placed : Bool) (ps : List Property)
    (key : String) : effective (setProperty entry placed ps) key =
      if entry.key = key then (if placed then none else some entry.value)
      else effective ps key := by
  induction ps generalizing placed with
  | nil =>
    cases placed with
    | true => simp [setProperty, effective]
    | false =>
      rw [setProperty, if_neg Bool.false_ne_true, effective_singleton]
      rfl
  | cons p ps ih =>
    rw [setProperty]
    by_cases hp : p.key = entry.key
    · rw [if_pos hp]
      cases placed with
      | true =>
        rw [if_pos rfl, ih, effective_cons, hp]
        split <;> simp
      | false =>
        rw [if_neg Bool.false_ne_true, effective_cons, ih, effective_cons, hp]
        split <;> simp
    · rw [if_neg hp, effective_cons, ih, effective_cons]
      by_cases hentry : entry.key = key
      · have hne : p.key ≠ key := fun h => hp (h.trans hentry.symm)
        simp [hentry, hne]
      · simp [hentry]

/-- **Properties set in order** count before those that were there. -/
theorem effective_foldl_setProperty (own ps : List Property) (key : String) :
    effective (own.foldl (fun ps entry => setProperty entry false ps) ps) key =
      effective (ps ++ own) key := by
  induction own generalizing ps with
  | nil => rw [List.append_nil, List.foldl_nil]
  | cons entry own ih =>
    rw [List.foldl_cons, ih, effective_append, effective_append, effective_setProperty,
      effective_cons, Option.or_assoc]
    congr 1
    by_cases h : entry.key = key <;> simp [h]

theorem effective_missingFrom {ps : List Property} (h : (ps.map Property.key).Nodup)
    (seen : List String) (key : String) :
    effective (missingFrom seen ps) key = if key ∈ seen then none else effective ps key := by
  induction ps generalizing seen with
  | nil => simp [missingFrom, effective]
  | cons p ps ih =>
    obtain ⟨hp, hps⟩ := List.nodup_cons.1 h
    rw [missingFrom]
    by_cases hseen : p.key ∈ seen
    · rw [if_pos (by simpa using hseen), ih hps, effective_cons]
      by_cases hkey : key ∈ seen
      · rw [if_pos hkey, if_pos hkey]
      · have hne : p.key ≠ key := fun h => hkey (h ▸ hseen)
        rw [if_neg hkey, if_neg hkey, if_neg hne, Option.or_none]
    · rw [if_neg (by simpa using hseen), effective_cons, ih hps, effective_cons]
      by_cases hpkey : p.key = key
      · subst hpkey
        have hnone : effective ps p.key = none := effective_eq_none_iff.2 hp
        simp [hseen, hnone]
      · have hne : key ≠ p.key := fun h => hpkey h.symm
        simp [hpkey, List.mem_cons, hne]

/-- **Missing defaults put in front** of the properties of a node count as if all were there. -/
theorem effective_missingFrom_append {defaults : List Property}
    (h : (defaults.map Property.key).Nodup) (own : List Property) (key : String) :
    effective (missingFrom (own.map Property.key) defaults ++ own) key =
      effective (defaults ++ own) key := by
  rw [effective_append, effective_append, effective_missingFrom h]
  by_cases hkey : key ∈ own.map Property.key
  · have hsome : effective own key ≠ none := fun hnone => effective_eq_none_iff.1 hnone hkey
    cases hown : effective own key with
    | none => exact absurd hown hsome
    | some v => rfl
  · rw [if_neg hkey]

/-! ## Tables of defaults -/

theorem map_key_putProperty (entry : Property) (ps : List Property) :
    (putProperty entry ps).map Property.key =
      if entry.key ∈ ps.map Property.key then ps.map Property.key
      else ps.map Property.key ++ [entry.key] := by
  induction ps with
  | nil => rfl
  | cons p ps ih =>
    rw [putProperty]
    by_cases hp : p.key = entry.key
    · simp [hp]
    · have hne : entry.key ≠ p.key := fun h => hp h.symm
      rw [if_neg hp, List.map_cons, List.map_cons, ih]
      by_cases hmem : entry.key ∈ ps.map Property.key
      · rw [if_pos hmem, if_pos (List.mem_cons_of_mem _ hmem)]
      · rw [if_neg hmem, if_neg (by simp [hne, hmem]), List.cons_append]

theorem nodup_putProperty {entry : Property} {ps : List Property}
    (h : (ps.map Property.key).Nodup) : ((putProperty entry ps).map Property.key).Nodup := by
  rw [map_key_putProperty]
  split
  · exact h
  · next hmem => exact List.nodup_append.2 ⟨h, List.pairwise_singleton _ _, by
      rintro a ha b hb rfl
      exact hmem (List.mem_singleton.1 hb ▸ ha)⟩

theorem effective_putProperty {entry : Property} {ps : List Property}
    (h : (ps.map Property.key).Nodup) (key : String) :
    effective (putProperty entry ps) key = effective (ps ++ [entry]) key := by
  rw [effective_append, effective_singleton]
  induction ps with
  | nil => simp [putProperty, effective]
  | cons p ps ih =>
    obtain ⟨hp, hps⟩ := List.nodup_cons.1 h
    rw [putProperty]
    by_cases hpe : p.key = entry.key
    · rw [if_pos hpe, effective_cons, effective_cons, hpe]
      by_cases hkey : entry.key = key
      · have hnone : effective ps key = none :=
          effective_eq_none_iff.2 (hkey ▸ hpe ▸ hp)
        simp [hkey, hnone]
      · simp [hkey]
    · rw [if_neg hpe, effective_cons, effective_cons, ih hps, Option.or_assoc]

namespace Defaults

/-- The entries of a type after a change to the block of a type. -/
theorem getD_lookup_changeBlock (key other : String) (change : List Property → List Property)
    (blocks : List (String × List Property)) :
    ((changeBlock key change blocks).lookup other).getD [] =
      if key = other then change ((blocks.lookup other).getD [])
      else (blocks.lookup other).getD [] := by
  by_cases hkey : key = other
  · subst hkey
    rw [lookup_changeBlock_self, if_pos rfl, Option.getD_some]
  · rw [if_neg hkey]
    have hne : (other == key) = false := beq_eq_false_iff_ne.2 fun h => hkey h.symm
    induction blocks with
    | nil => simp [changeBlock, List.lookup_cons, hne]
    | cons b blocks ih =>
      obtain ⟨k, ps⟩ := b
      rw [changeBlock]
      by_cases hk : k = key
      · subst hk
        simp [List.lookup_cons, hne]
      · rw [if_neg hk, List.lookup_cons, List.lookup_cons]
        split
        · rfl
        · exact ih

theorem entries_add (t : Defaults) (typeName name other : String) (value : Option String) :
    (t.add typeName name value).entries other =
      if folded typeName = folded other then putProperty ⟨name, value⟩ (t.entries other)
      else t.entries other :=
  getD_lookup_changeBlock _ _ _ _

theorem entries_declare (t : Defaults) (typeName other : String) :
    (t.declare typeName).entries other = t.entries other := by
  have h := getD_lookup_changeBlock (folded typeName) (folded other) id t.blocks
  rw [id, ite_self] at h
  exact h

/-- A table holds properties by type: each key once, with the value that it has last. -/
structure Holds (t : Defaults) (added : String → List Property) : Prop where
  nodup : ∀ typeName, ((t.entries typeName).map Property.key).Nodup
  values : ∀ typeName key, effective (t.entries typeName) key = effective (added typeName) key

namespace Holds

theorem empty : Holds .empty fun _ => [] :=
  ⟨fun _ => List.nodup_nil, fun _ _ => rfl⟩

variable {t : Defaults} {added : String → List Property}

theorem declare (h : t.Holds added) (typeName : String) : (t.declare typeName).Holds added where
  nodup other := by
    rw [entries_declare]
    exact h.nodup other
  values other key := by
    rw [entries_declare]
    exact h.values other key

theorem add (h : t.Holds added) (typeName name : String) (value : Option String) :
    (t.add typeName name value).Holds fun other =>
      added other ++ if folded typeName = folded other then [⟨name, value⟩] else [] where
  nodup other := by
    rw [entries_add]
    split
    · exact nodup_putProperty (h.nodup other)
    · exact h.nodup other
  values other key := by
    rw [entries_add]
    split
    · rw [effective_putProperty (h.nodup other), effective_append, effective_append, h.values]
    · rw [List.append_nil, h.values]

/-- A table with several properties of a type added in order. -/
theorem addAll (h : t.Holds added) (typeName : String) (ps : List Property) :
    (ps.foldl (fun t p => t.add typeName p.name p.value) t).Holds fun other =>
      added other ++ if folded typeName = folded other then ps else [] := by
  induction ps generalizing t added with
  | nil => simpa using h
  | cons p ps ih =>
    have hstep := ih (h.add typeName p.name p.value)
    have hsame : (fun other =>
        (added other ++ if folded typeName = folded other then [p] else []) ++
          if folded typeName = folded other then ps else []) =
        fun other => added other ++ if folded typeName = folded other then p :: ps else [] := by
      funext other
      split <;> simp
    exact hsame ▸ hstep

end Holds

end Defaults

end LayoutTree
