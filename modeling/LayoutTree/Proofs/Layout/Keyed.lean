import LayoutTree.Proofs.Layout.Shape

/-!
# Properties by key

Of several properties with one key, a list has a first and a last one (`firstWith`, `lastWith`). The
list can be cut down to one property for each key, in order of first occurrence: to the first ones
(`firstOfEach`) or to the last ones, which then stand where the first ones stood (`lastOfEach`).

Each way in which properties are put together comes down to these: missing ones in front are first
ones (`missingFrom_eq`), properties set one by one are last ones, in place or after the others
(`foldl_setProperty_eq`), and a table of defaults holds the last ones that were added to it
(`Defaults.entries_ofSteps`).
-/

namespace LayoutTree

open LayoutTree.Text

/-- The first property with a key. -/
def firstWith (key : String) (ps : List Property) : Option Property :=
  ps.find? fun p => p.key = key

/-- The last property with a key. -/
def lastWith (key : String) (ps : List Property) : Option Property :=
  firstWith key ps.reverse

/-- The properties with other keys than the given ones. -/
def apartFrom (keys : List String) (ps : List Property) : List Property :=
  ps.filter fun p => p.key ∉ keys

/-- The first property of each key, in order. -/
def firstOfEach : List Property → List Property
  | [] => []
  | p :: ps => p :: apartFrom [p.key] (firstOfEach ps)

/-- The last property of each key, in the order in which the keys first occur. -/
def lastOfEach (ps : List Property) : List Property :=
  (firstOfEach ps).map fun p => (lastWith p.key ps).getD p

/-- Properties overridden by others: each in its place by the last one with its key, and the others
of further keys after them. -/
def overridden (ps own : List Property) : List Property :=
  ps.map (fun p => (lastWith p.key own).getD p) ++ apartFrom (ps.map Property.key) (lastOfEach own)

/-! ## First and last ones -/

theorem firstWith_cons (key : String) (p : Property) (ps : List Property) :
    firstWith key (p :: ps) = if p.key = key then some p else firstWith key ps := by
  rw [firstWith, List.find?_cons]
  by_cases h : p.key = key <;> simp [h, firstWith]

theorem firstWith_append (key : String) (ps qs : List Property) :
    firstWith key (ps ++ qs) = (firstWith key ps).or (firstWith key qs) :=
  List.find?_append

theorem key_of_firstWith {key : String} {p : Property} {ps : List Property}
    (h : firstWith key ps = some p) : p.key = key := by
  simpa using List.find?_some h

theorem firstWith_eq_none_iff {key : String} {ps : List Property} :
    firstWith key ps = none ↔ key ∉ ps.map Property.key := by
  simp [firstWith, List.find?_eq_none]

theorem isSome_firstWith {key : String} {ps : List Property} :
    (firstWith key ps).isSome = true ↔ key ∈ ps.map Property.key := by
  rw [Option.isSome_iff_ne_none, Ne, firstWith_eq_none_iff, Decidable.not_not]

theorem lastWith_cons (key : String) (p : Property) (ps : List Property) :
    lastWith key (p :: ps) = (lastWith key ps).or (if p.key = key then some p else none) := by
  rw [lastWith, List.reverse_cons, firstWith_append, firstWith_cons]
  rfl

theorem lastWith_append (key : String) (ps qs : List Property) :
    lastWith key (ps ++ qs) = (lastWith key qs).or (lastWith key ps) := by
  rw [lastWith, List.reverse_append, firstWith_append, lastWith, lastWith]

theorem key_of_lastWith {key : String} {p : Property} {ps : List Property}
    (h : lastWith key ps = some p) : p.key = key :=
  key_of_firstWith h

theorem lastWith_eq_none_iff {key : String} {ps : List Property} :
    lastWith key ps = none ↔ key ∉ ps.map Property.key := by
  rw [lastWith, firstWith_eq_none_iff, List.map_reverse, List.mem_reverse]

/-- Where each key occurs once, the last property with a key is the first one. -/
theorem lastWith_of_nodup {ps : List Property} (h : (ps.map Property.key).Nodup)
    (key : String) : lastWith key ps = firstWith key ps := by
  induction ps with
  | nil => rfl
  | cons p ps ih =>
    obtain ⟨hp, hps⟩ := List.nodup_cons.1 h
    rw [lastWith_cons, firstWith_cons, ih hps]
    by_cases hkey : p.key = key
    · subst hkey
      rw [if_pos rfl, firstWith_eq_none_iff.2 hp, Option.none_or, if_pos rfl]
    · rw [if_neg hkey, if_neg hkey, Option.or_none]

/-- The value under a key is that of the last property with this key. -/
theorem valueOf_eq (key : String) (ps : List Property) :
    valueOf key ps = (lastWith key ps).bind (·.value) :=
  rfl

/-! ## Properties set apart -/

theorem mem_apartFrom {keys : List String} {ps : List Property} {p : Property} :
    p ∈ apartFrom keys ps ↔ p ∈ ps ∧ p.key ∉ keys := by
  simp [apartFrom]

theorem mem_keys_apartFrom {key : String} {keys : List String} {ps : List Property} :
    key ∈ (apartFrom keys ps).map Property.key ↔ key ∈ ps.map Property.key ∧ key ∉ keys := by
  simp only [List.mem_map, mem_apartFrom]
  constructor
  · rintro ⟨p, ⟨hp, hne⟩, rfl⟩
    exact ⟨⟨p, hp, rfl⟩, hne⟩
  · rintro ⟨⟨p, hp, rfl⟩, hne⟩
    exact ⟨p, ⟨hp, hne⟩, rfl⟩

theorem apartFrom_cons (keys : List String) (p : Property) (ps : List Property) :
    apartFrom keys (p :: ps) = if p.key ∈ keys then apartFrom keys ps else p :: apartFrom keys ps := by
  by_cases h : p.key ∈ keys <;> simp [apartFrom, h]

theorem apartFrom_apartFrom (keys more : List String) (ps : List Property) :
    apartFrom keys (apartFrom more ps) = apartFrom (keys ++ more) ps := by
  simp [apartFrom, List.filter_filter, not_or]

theorem apartFrom_congr {keys more : List String} (h : ∀ key, key ∈ keys ↔ key ∈ more)
    (ps : List Property) : apartFrom keys ps = apartFrom more ps := by
  simp [apartFrom, h]

theorem apartFrom_eq_self {keys : List String} {ps : List Property}
    (h : ∀ p ∈ ps, p.key ∉ keys) : apartFrom keys ps = ps := by
  simpa [apartFrom, List.filter_eq_self] using h

theorem apartFrom_map {f : Property → Property} (hf : ∀ p, (f p).key = p.key) (keys : List String)
    (ps : List Property) : apartFrom keys (ps.map f) = (apartFrom keys ps).map f := by
  rw [apartFrom, List.filter_map]
  simp only [apartFrom, Function.comp_def, hf]

/-- Keys set apart have no property left, and the others keep theirs. -/
theorem firstWith_apartFrom (keys : List String) (key : String) (ps : List Property) :
    firstWith key (apartFrom keys ps) = if key ∈ keys then none else firstWith key ps := by
  induction ps with
  | nil => simp [apartFrom, firstWith]
  | cons p ps ih =>
    rw [apartFrom_cons, firstWith_cons]
    by_cases hp : p.key ∈ keys
    · rw [if_pos hp, ih]
      split
      · rfl
      · next hkey =>
        have hne : p.key ≠ key := fun h => hkey (h ▸ hp)
        rw [if_neg hne]
    · rw [if_neg hp, firstWith_cons, ih]
      by_cases hkey : p.key = key
      · rw [if_pos hkey, if_pos hkey, if_neg fun h => hp (hkey ▸ h)]
      · rw [if_neg hkey, if_neg hkey]

theorem lastWith_apartFrom (keys : List String) (key : String) (ps : List Property) :
    lastWith key (apartFrom keys ps) = if key ∈ keys then none else lastWith key ps := by
  have hreverse : (apartFrom keys ps).reverse = apartFrom keys ps.reverse :=
    List.filter_reverse.symm
  rw [lastWith, hreverse, firstWith_apartFrom, lastWith]

/-- Of properties put after others where their keys are missing, the ones before count. -/
theorem lastWith_append_apartFrom (key : String) (ps qs : List Property) :
    lastWith key (ps ++ apartFrom (ps.map Property.key) qs) =
      (lastWith key ps).or (lastWith key qs) := by
  rw [lastWith_append, lastWith_apartFrom]
  split
  · next h =>
    obtain ⟨p, hp⟩ := Option.ne_none_iff_exists'.1 (mt lastWith_eq_none_iff.1 (not_not_intro h))
    rw [Option.none_or, hp, Option.some_or]
  · next h => rw [lastWith_eq_none_iff.2 h, Option.or_none, Option.none_or]

/-- Of properties put before others where their keys are missing, the ones after count. -/
theorem lastWith_apartFrom_append (key : String) (ps qs : List Property) :
    lastWith key (apartFrom (qs.map Property.key) ps ++ qs) =
      (lastWith key qs).or (lastWith key ps) := by
  rw [lastWith_append, lastWith_apartFrom]
  split
  · next h =>
    obtain ⟨p, hp⟩ := Option.ne_none_iff_exists'.1 (mt lastWith_eq_none_iff.1 (not_not_intro h))
    rw [hp, Option.some_or, Option.some_or]
  · rfl

/-! ## One property for each key -/

theorem mem_keys_firstOfEach {key : String} {ps : List Property} :
    key ∈ (firstOfEach ps).map Property.key ↔ key ∈ ps.map Property.key := by
  induction ps with
  | nil => rfl
  | cons p ps ih =>
    rw [firstOfEach, List.map_cons, List.mem_cons, mem_keys_apartFrom, List.mem_singleton, ih,
      List.map_cons, List.mem_cons]
    by_cases h : key = p.key <;> simp [h]

theorem firstOfEach_sublist (ps : List Property) : (firstOfEach ps).Sublist ps := by
  induction ps with
  | nil => exact List.Sublist.refl _
  | cons p ps ih => exact (List.filter_sublist.trans ih).cons_cons p

theorem nodup_firstOfEach (ps : List Property) : ((firstOfEach ps).map Property.key).Nodup := by
  induction ps with
  | nil => exact List.nodup_nil
  | cons p ps ih =>
    rw [firstOfEach, List.map_cons, List.nodup_cons]
    refine ⟨fun hmem => ?_, ih.sublist (List.filter_sublist.map _)⟩
    obtain ⟨q, hq, hkey⟩ := List.mem_map.1 hmem
    exact (mem_apartFrom.1 hq).2 (List.mem_singleton.2 hkey)

theorem firstWith_firstOfEach (key : String) (ps : List Property) :
    firstWith key (firstOfEach ps) = firstWith key ps := by
  induction ps with
  | nil => rfl
  | cons p ps ih =>
    rw [firstOfEach, firstWith_cons, firstWith_cons, firstWith_apartFrom, ih]
    by_cases h : p.key = key
    · rw [if_pos h, if_pos h]
    · rw [if_neg h, if_neg h, if_neg fun hmem => h (List.mem_singleton.1 hmem).symm]

/-- Properties whose keys all differ are the first ones of their keys. -/
theorem firstOfEach_of_nodup {ps : List Property} (h : (ps.map Property.key).Nodup) :
    firstOfEach ps = ps := by
  induction ps with
  | nil => rfl
  | cons p ps ih =>
    obtain ⟨hp, hps⟩ := List.nodup_cons.1 h
    rw [firstOfEach, ih hps, apartFrom_eq_self]
    intro q hq hkey
    exact hp (List.mem_map.2 ⟨q, hq, List.mem_singleton.1 hkey⟩)

theorem key_getD_lastWith (own : List Property) (p : Property) :
    ((lastWith p.key own).getD p).key = p.key := by
  cases h : lastWith p.key own with
  | none => rfl
  | some q => exact key_of_lastWith h

/-- Properties keep their keys when others of the same keys take their places. -/
theorem map_key_getD_lastWith (own ps : List Property) :
    (ps.map fun p => (lastWith p.key own).getD p).map Property.key = ps.map Property.key := by
  rw [List.map_map]
  exact List.map_congr_left fun p _ => key_getD_lastWith own p

theorem map_key_lastOfEach (ps : List Property) :
    (lastOfEach ps).map Property.key = (firstOfEach ps).map Property.key :=
  map_key_getD_lastWith ps _

theorem nodup_lastOfEach (ps : List Property) : ((lastOfEach ps).map Property.key).Nodup := by
  rw [map_key_lastOfEach]
  exact nodup_firstOfEach ps

theorem lastOfEach_cons (p : Property) (ps : List Property) :
    lastOfEach (p :: ps) = (lastWith p.key ps).getD p :: apartFrom [p.key] (lastOfEach ps) := by
  have hhead : (lastWith p.key (p :: ps)).getD p = (lastWith p.key ps).getD p := by
    rw [lastWith_cons, if_pos rfl]
    cases lastWith p.key ps <;> rfl
  rw [lastOfEach, firstOfEach, List.map_cons, hhead, lastOfEach,
    apartFrom_map (key_getD_lastWith ps)]
  congr 1
  refine List.map_congr_left fun q hq => ?_
  have hne : p.key ≠ q.key := fun h => (mem_apartFrom.1 hq).2 (List.mem_singleton.2 h.symm)
  rw [lastWith_cons, if_neg hne, Option.or_none]

/-- The last property of each key is the last one with its key. -/
theorem lastWith_lastOfEach (key : String) (ps : List Property) :
    lastWith key (lastOfEach ps) = lastWith key ps := by
  rw [lastWith_of_nodup (nodup_lastOfEach ps)]
  induction ps with
  | nil => rfl
  | cons p ps ih =>
    rw [lastOfEach_cons, firstWith_cons, firstWith_apartFrom, ih, lastWith_cons, key_getD_lastWith]
    by_cases h : p.key = key
    · subst h
      rw [if_pos rfl, if_pos rfl]
      cases lastWith p.key ps <;> rfl
    · rw [if_neg h, if_neg h, if_neg fun hmem => h (List.mem_singleton.1 hmem).symm, Option.or_none]

/-! ## Missing properties -/

/-- **Missing properties** are the first ones of the keys that have not been seen. -/
theorem missingFrom_eq (seen : List String) (ps : List Property) :
    missingFrom seen ps = apartFrom seen (firstOfEach ps) := by
  induction ps generalizing seen with
  | nil => rfl
  | cons p ps ih =>
    rw [missingFrom, firstOfEach, apartFrom_cons, apartFrom_apartFrom]
    by_cases h : p.key ∈ seen
    · rw [if_pos (by simpa using h), if_pos h, ih]
      refine apartFrom_congr (fun key => ?_) _
      rw [List.mem_append, List.mem_singleton]
      exact ⟨.inl, fun hkey => hkey.elim id fun heq => heq ▸ h⟩
    · rw [if_neg (by simpa using h), if_neg h, ih]
      refine congrArg _ (apartFrom_congr (fun key => ?_) _)
      rw [List.mem_cons, List.mem_append, List.mem_singleton, or_comm]

theorem missingFrom_congr {seen other : List String} (h : ∀ key, key ∈ seen ↔ key ∈ other)
    (ps : List Property) : missingFrom seen ps = missingFrom other ps := by
  rw [missingFrom_eq, missingFrom_eq, apartFrom_congr h]

/-- Properties that are missing from two lists, one after the other. -/
theorem missingFrom_append (seen : List String) (ps qs : List Property) :
    missingFrom seen (ps ++ qs) =
      missingFrom seen ps ++ missingFrom (seen ++ (missingFrom seen ps).map Property.key) qs := by
  induction ps generalizing seen with
  | nil =>
    rw [missingFrom, List.map_nil, List.append_nil]
    rfl
  | cons p ps ih =>
    rw [List.cons_append, missingFrom, missingFrom]
    by_cases h : seen.contains p.key = true
    · rw [if_pos h, if_pos h, ih]
    · rw [if_neg h, if_neg h, ih, List.cons_append, List.map_cons]
      congr 2
      refine missingFrom_congr (fun key => ?_) _
      simp only [List.mem_append, List.mem_cons]
      exact or_left_comm

theorem mem_keys_missingFrom {key : String} {seen : List String} {ps : List Property} :
    key ∈ (missingFrom seen ps).map Property.key ↔ key ∈ ps.map Property.key ∧ key ∉ seen := by
  rw [missingFrom_eq, mem_keys_apartFrom, mem_keys_firstOfEach]

theorem mem_keys_missingFrom_append {key : String} {ps qs : List Property} :
    key ∈ (missingFrom (qs.map Property.key) ps ++ qs).map Property.key ↔
      key ∈ ps.map Property.key ∨ key ∈ qs.map Property.key := by
  rw [List.map_append, List.mem_append, mem_keys_missingFrom, and_or_right,
    and_iff_left (Decidable.not_or_self _)]

/-! ## Properties set one by one -/

theorem setProperty_of_notMem {entry : Property} {placed : Bool} {ps : List Property}
    (h : entry.key ∉ ps.map Property.key) :
    setProperty entry placed ps = ps ++ if placed then [] else [entry] := by
  induction ps with
  | nil => rfl
  | cons p ps ih =>
    rw [List.map_cons, List.mem_cons, not_or] at h
    rw [setProperty, if_neg (Ne.symm h.1), ih h.2, List.cons_append]

/-- Where each key occurs once, a property takes the place of the one with its key. -/
theorem setProperty_of_mem {entry : Property} {ps : List Property}
    (hnodup : (ps.map Property.key).Nodup) (h : entry.key ∈ ps.map Property.key) :
    setProperty entry false ps = ps.map fun p => if p.key = entry.key then entry else p := by
  induction ps with
  | nil => cases h
  | cons p ps ih =>
    obtain ⟨hp, hps⟩ := List.nodup_cons.1 hnodup
    rw [setProperty, List.map_cons]
    by_cases hkey : p.key = entry.key
    · have hrest : ps.map (fun q => if q.key = entry.key then entry else q) = ps := by
        refine (List.map_congr_left fun q hq => if_neg fun hq' => hp ?_).trans (List.map_id ps)
        exact List.mem_map.2 ⟨q, hq, hq'.trans hkey.symm⟩
      rw [if_pos hkey, if_pos hkey, if_neg Bool.false_ne_true, hrest,
        setProperty_of_notMem (hkey ▸ hp), if_pos rfl, List.append_nil]
    · rw [if_neg hkey, if_neg hkey, ih hps]
      exact (List.mem_cons.1 h).resolve_left (Ne.symm hkey)

theorem map_key_setProperty {entry : Property} {ps : List Property}
    (hnodup : (ps.map Property.key).Nodup) : (setProperty entry false ps).map Property.key =
      if entry.key ∈ ps.map Property.key then ps.map Property.key
      else ps.map Property.key ++ [entry.key] := by
  split
  · next h =>
    rw [setProperty_of_mem hnodup h, List.map_map]
    refine List.map_congr_left fun p _ => ?_
    by_cases hkey : p.key = entry.key <;> simp [hkey]
  · next h =>
    rw [setProperty_of_notMem h, if_neg Bool.false_ne_true, List.map_append, List.map_singleton]

theorem nodup_setProperty {entry : Property} {ps : List Property}
    (hnodup : (ps.map Property.key).Nodup) :
    ((setProperty entry false ps).map Property.key).Nodup := by
  rw [map_key_setProperty hnodup]
  split
  · exact hnodup
  · next h =>
    refine List.nodup_append.2 ⟨hnodup, List.pairwise_singleton _ _, ?_⟩
    rintro a ha b hb rfl
    exact h (List.mem_singleton.1 hb ▸ ha)

/-- One property set before others is overridden by them like one that was there. -/
theorem overridden_setProperty {ps : List Property} (hnodup : (ps.map Property.key).Nodup)
    (entry : Property) (own : List Property) :
    overridden (setProperty entry false ps) own = overridden ps (entry :: own) := by
  by_cases h : entry.key ∈ ps.map Property.key
  · have hfirst : (setProperty entry false ps).map (fun p => (lastWith p.key own).getD p) =
        ps.map fun p => (lastWith p.key (entry :: own)).getD p := by
      rw [setProperty_of_mem hnodup h, List.map_map]
      refine List.map_congr_left fun p _ => ?_
      rw [Function.comp_apply, lastWith_cons]
      by_cases hkey : p.key = entry.key
      · rw [if_pos hkey, if_pos hkey.symm, hkey]
        cases lastWith entry.key own <;> rfl
      · rw [if_neg hkey, if_neg (Ne.symm hkey), Option.or_none]
    have hsame : ∀ key, key ∈ ps.map Property.key ++ [entry.key] ↔ key ∈ ps.map Property.key := by
      intro key
      rw [List.mem_append, List.mem_singleton]
      exact ⟨fun hkey => hkey.elim id fun heq => heq ▸ h, .inl⟩
    rw [overridden, overridden, hfirst, map_key_setProperty hnodup, if_pos h, lastOfEach_cons,
      apartFrom_cons, key_getD_lastWith, if_pos h, apartFrom_apartFrom, apartFrom_congr hsame]
  · have hfirst : ps.map (fun p => (lastWith p.key own).getD p) =
        ps.map fun p => (lastWith p.key (entry :: own)).getD p := by
      refine List.map_congr_left fun p hp => ?_
      have hkey : entry.key ≠ p.key := fun heq => h (List.mem_map.2 ⟨p, hp, heq.symm⟩)
      rw [lastWith_cons, if_neg hkey, Option.or_none]
    rw [overridden, overridden, map_key_setProperty hnodup, if_neg h, lastOfEach_cons,
      apartFrom_cons, key_getD_lastWith, if_neg h, apartFrom_apartFrom, setProperty_of_notMem h,
      if_neg Bool.false_ne_true, List.map_append, hfirst, List.map_singleton, List.append_assoc,
      List.singleton_append]

/-- **Properties set one by one** override those that were there. -/
theorem foldl_setProperty_eq {ps : List Property} (hnodup : (ps.map Property.key).Nodup)
    (own : List Property) :
    own.foldl (fun ps entry => setProperty entry false ps) ps = overridden ps own := by
  induction own generalizing ps with
  | nil =>
    have hnone : ps.map (fun p => (lastWith p.key []).getD p) = ps := List.map_id ps
    rw [List.foldl_nil, overridden, hnone]
    exact (List.append_nil ps).symm
  | cons entry own ih =>
    rw [List.foldl_cons, ih (nodup_setProperty hnodup), overridden_setProperty hnodup]

theorem nodup_overridden {ps : List Property} (hnodup : (ps.map Property.key).Nodup)
    (own : List Property) : ((overridden ps own).map Property.key).Nodup := by
  rw [overridden, List.map_append, map_key_getD_lastWith, List.nodup_append]
  refine ⟨hnodup, (nodup_lastOfEach own).sublist (List.filter_sublist.map _), ?_⟩
  rintro key hkey other hother rfl
  obtain ⟨p, hp, rfl⟩ := List.mem_map.1 hother
  exact (mem_apartFrom.1 hp).2 hkey

/-! ## Tables of defaults -/

/-- Where each key occurs once, a default is put in as a property is set. -/
theorem putProperty_eq {entry : Property} {ps : List Property}
    (hnodup : (ps.map Property.key).Nodup) :
    putProperty entry ps = setProperty entry false ps := by
  induction ps with
  | nil => rfl
  | cons p ps ih =>
    obtain ⟨hp, hps⟩ := List.nodup_cons.1 hnodup
    rw [putProperty, setProperty]
    by_cases hkey : p.key = entry.key
    · rw [if_pos hkey, if_pos hkey, if_neg Bool.false_ne_true, setProperty_of_notMem (hkey ▸ hp),
        if_pos rfl, List.append_nil]
    · rw [if_neg hkey, if_neg hkey, ih hps]

namespace Defaults

/-- What a source does to its table of defaults. -/
inductive Step
  /-- A type is declared. -/
  | declare (typeName : String)
  /-- A default of a type is added. -/
  | add (typeName : String) (p : Property)

/-- The default that a step adds for a type, if it does. -/
def Step.default? (typeName : String) : Step → Option Property
  | declare _ => none
  | add other p => if folded other = folded typeName then some p else none

/-- A table after a step. -/
def after (t : Defaults) : Step → Defaults
  | .declare typeName => t.declare typeName
  | .add typeName p => t.add typeName p.name p.value

/-- The table that steps make. -/
def ofSteps (steps : List Step) : Defaults :=
  steps.foldl after .empty

/-- The defaults that steps add for a type, in order. -/
def added (steps : List Step) (typeName : String) : List Property :=
  steps.filterMap (Step.default? typeName)

theorem entries_after {t : Defaults} {typeName : String}
    (hnodup : ((t.entries typeName).map Property.key).Nodup) (step : Step) :
    (t.after step).entries typeName =
      (step.default? typeName).toList.foldl (fun ps entry => setProperty entry false ps)
        (t.entries typeName) := by
  cases step with
  | declare other => exact entries_declare t other typeName
  | add other p =>
    rw [after, entries_add, Step.default?]
    split
    · exact putProperty_eq hnodup
    · rfl

/-- **A table holds the last default of each key**, in the order in which the keys were added. -/
theorem entries_ofSteps (steps : List Step) (typeName : String) :
    (ofSteps steps).entries typeName = lastOfEach (added steps typeName) := by
  have hfold : ∀ t : Defaults, ((t.entries typeName).map Property.key).Nodup →
      (steps.foldl after t).entries typeName =
        (added steps typeName).foldl (fun ps entry => setProperty entry false ps)
          (t.entries typeName) := by
    induction steps with
    | nil =>
      intro t hnodup
      rfl
    | cons step steps ih =>
      intro t hnodup
      have hstep := entries_after hnodup step
      have hnodup' : (((t.after step).entries typeName).map Property.key).Nodup := by
        rw [hstep, foldl_setProperty_eq hnodup]
        exact nodup_overridden hnodup _
      rw [List.foldl_cons, ih _ hnodup', hstep, ← List.foldl_append, added, added,
        List.filterMap_cons]
      cases step.default? typeName <;> rfl
  have hnodup : ((empty.entries typeName).map Property.key).Nodup := List.nodup_nil
  rw [ofSteps, hfold .empty hnodup, foldl_setProperty_eq hnodup]
  exact apartFrom_eq_self fun p _ => List.not_mem_nil

end Defaults

end LayoutTree
