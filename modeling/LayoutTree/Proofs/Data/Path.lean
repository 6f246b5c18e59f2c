import LayoutTree.Data.Step
import Mathlib.Data.Option.Basic

/-!
# Paths in structured data

A path leads from a value through fields and items to one of its parts (`along?`). Some of the parts
of a value can be replaced by the empty text (`blanked`); each part that is left is found along the
same path.
-/

namespace LayoutTree.Data

/-- The value that a path leads to. -/
def along? : Data → List Step → Option Data
  | v, [] => some v
  | v, step :: path => (follow? v step).bind fun inner => inner.along? path

theorem along?_cons (v : Data) (step : Step) (path : List Step) :
    v.along? (step :: path) = (follow? v step).bind fun inner => inner.along? path :=
  rfl

theorem along?_cons_eq_some {v u : Data} {step : Step} {path : List Step} :
    v.along? (step :: path) = some u ↔ ∃ w, v.follow? step = some w ∧ w.along? path = some u :=
  Option.bind_eq_some_iff

/-- An item of a field. -/
theorem along?_field_item {fields : List (String × Data)} {name : String} {w u : Data} {i : Nat}
    (hfield : field? fields name = some w) (hitem : w.follow? (.item i) = some u) :
    (object fields).along? [.field name, .item i] = some u :=
  along?_cons_eq_some.2 ⟨w, hfield, along?_cons_eq_some.2 ⟨u, hitem, rfl⟩⟩

/-- A name among the fields leads to a value. -/
theorem exists_field?_of_mem {fields : List (String × Data)} {name : String} {w : Data}
    (h : (name, w) ∈ fields) : ∃ u, field? fields name = some u := by
  by_contra hnone
  rw [← Option.isSome_iff_exists, Option.not_isSome_iff_eq_none, field?,
    List.lookup_eq_none_iff] at hnone
  simpa using hnone _ h

theorem along?_append (v : Data) (path more : List Step) :
    v.along? (path ++ more) = (v.along? path).bind fun inner => inner.along? more := by
  induction path generalizing v with
  | nil => rfl
  | cons step path ih =>
    rw [List.cons_append, along?_cons, along?_cons, Option.bind_assoc]
    exact Option.bind_congr fun inner _ => ih inner

/-! ## Values replaced by the empty text -/

/-- The places below a step. -/
def inside (step : Step) (places : List Step → Bool) : List Step → Bool :=
  fun path => places (step :: path)

mutual

/-- A value with the values at some places below it replaced by the empty text. -/
def blanked (places : List Step → Bool) : Data → Data
  | .list items => .list (blankedItems places 0 items)
  | .object fields => .object (blankedFields places fields)
  | v => v

/-- The items of a list, counted from `index`, with the values at some places replaced by the empty
text. -/
def blankedItems (places : List Step → Bool) (index : Nat) : List Data → List Data
  | [] => []
  | v :: rest =>
    (if places [.item index] then .text "" else blanked (inside (.item index) places) v) ::
      blankedItems places (index + 1) rest

/-- The fields of an object with the values at some places replaced by the empty text. -/
def blankedFields (places : List Step → Bool) : List (String × Data) → List (String × Data)
  | [] => []
  | (name, v) :: rest =>
    (name, if places [.field name] then .text "" else blanked (inside (.field name) places) v) ::
      blankedFields places rest

end

/-- What stands in place of the value at a step. -/
def blankedAt (places : List Step → Bool) (step : Step) (v : Data) : Data :=
  if places [step] then .text "" else blanked (inside step places) v

theorem field?_blankedFields (places : List Step → Bool) (fields : List (String × Data))
    (name : String) : field? (blankedFields places fields) name =
      (field? fields name).map (blankedAt places (.field name)) := by
  rw [field?, field?]
  induction fields with
  | nil => rfl
  | cons f rest ih =>
    obtain ⟨other, v⟩ := f
    rw [blankedFields, List.lookup_cons, List.lookup_cons, ih]
    by_cases h : name = other
    · subst h
      simp [blankedAt]
    · simp [beq_eq_false_iff_ne.2 h]

mutual

/-- With no place to replace, a value stays as it is. -/
theorem blanked_of_forall (places : List Step → Bool) :
    ∀ v : Data, (∀ path, places path = false) → v.blanked places = v
  | .list items, h => by rw [blanked, blankedItems_of_forall items h]
  | .object fields, h => by rw [blanked, blankedFields_of_forall fields h]
  | .null, _ => rfl
  | .bool _, _ => rfl
  | .integer _, _ => rfl
  | .number _, _ => rfl
  | .text _, _ => rfl

theorem blankedItems_of_forall {places : List Step → Bool} {index : Nat} :
    ∀ items : List Data, (∀ path, places path = false) → blankedItems places index items = items
  | [], _ => rfl
  | v :: rest, h => by
    rw [blankedItems, if_neg (by simp [h]), blanked_of_forall (inside _ places) v fun path => h _,
      blankedItems_of_forall rest h]

theorem blankedFields_of_forall {places : List Step → Bool} :
    ∀ fields : List (String × Data), (∀ path, places path = false) →
      blankedFields places fields = fields
  | [], _ => rfl
  | (name, v) :: rest, h => by
    rw [blankedFields, if_neg (by simp [h]), blanked_of_forall (inside _ places) v fun path => h _,
      blankedFields_of_forall rest h]

end

/-- A field at and below which nothing is replaced stays as it is. -/
theorem field?_blankedFields_of_forall {places : List Step → Bool} {name : String}
    (h : ∀ path, places (.field name :: path) = false) (fields : List (String × Data)) :
    field? (blankedFields places fields) name = field? fields name := by
  have hsame : blankedAt places (.field name) = id := by
    funext v
    rw [blankedAt, if_neg (by simp [h]), blanked_of_forall (inside _ places) v h]
    rfl
  rw [field?_blankedFields, hsame, Option.map_id]
  rfl

/-! ## Values within a value -/

/-- The value that a step leads to is smaller. -/
theorem sizeOf_lt_of_follow? {v w : Data} {step : Step} (h : v.follow? step = some w) :
    sizeOf w < sizeOf v := by
  match v, step, h with
  | .object fields, .field name, h =>
    obtain ⟨before, rest, hfields, -⟩ := List.lookup_eq_some_iff.1 h
    have hlt := List.sizeOf_lt_of_mem (hfields ▸ List.mem_append_cons_self : (name, w) ∈ fields)
    simp only [Prod.mk.sizeOf_spec] at hlt
    simp only [object.sizeOf_spec]
    omega
  | .list items, .item index, h =>
    have hlt := List.sizeOf_lt_of_mem (List.mem_of_getElem? h)
    simp only [list.sizeOf_spec]
    omega

theorem sizeOf_lt_of_along? {v w : Data} {step : Step} {path : List Step}
    (h : v.along? (step :: path) = some w) : sizeOf w < sizeOf v := by
  induction path generalizing v step with
  | nil =>
    obtain ⟨u, hu, hw⟩ := along?_cons_eq_some.1 h
    exact Option.some.inj hw ▸ sizeOf_lt_of_follow? hu
  | cons next path ih =>
    obtain ⟨u, hu, hw⟩ := along?_cons_eq_some.1 h
    exact Nat.lt_trans (ih hw) (sizeOf_lt_of_follow? hu)

/-- What holds of a value if it holds of all that is within it holds of every value. -/
theorem induction_within {motive : Data → Prop}
    (h : ∀ v, (∀ step path w, v.along? (step :: path) = some w → motive w) → motive v) (v : Data) :
    motive v := by
  induction hn : sizeOf v using Nat.strongRecOn generalizing v with
  | ind n ih =>
    exact h v fun step path w hw => ih (sizeOf w) (hn ▸ sizeOf_lt_of_along? hw) w rfl

/-! ## The last value on a path -/

/-- Only a container has values a step away. -/
theorem isContainer_of_follow? {v w : Data} {step : Step} (h : v.follow? step = some w) :
    v.isContainer = true := by
  cases v with
  | list items => rfl
  | object fields => rfl
  | _ => nomatch h

/-- Of the values of some kind on a path, `w` is the last, and `steps` lead to it. -/
structure IsLast (kind : Data → Bool) (v : Data) (path steps : List Step) (w : Data) : Prop where
  onPath : steps <+: path
  along : v.along? steps = some w
  holds : kind w = true
  last : ∀ other u, other <+: path → v.along? other = some u → kind u = true → other <+: steps

theorem IsLast.steps_eq {kind : Data → Bool} {v w w' : Data} {path steps steps' : List Step}
    (h : IsLast kind v path steps w) (h' : IsLast kind v path steps' w') : steps = steps' :=
  (h'.last _ _ h.onPath h.along h.holds).eq_of_length_le
    (h.last _ _ h'.onPath h'.along h'.holds).length_le

/-- The deepest value on a path is the last one. -/
theorem exists_isLast_deepest (v : Data) (path : List Step) :
    ∃ steps, IsLast (fun _ => true) v path steps (v.deepest path) := by
  induction path generalizing v with
  | nil => exact ⟨[], List.prefix_rfl, rfl, rfl, fun _ _ h _ _ => h⟩
  | cons step rest ih =>
    rw [deepest]
    cases hstep : v.follow? step with
    | none =>
      refine ⟨[], List.nil_prefix, rfl, rfl, fun other u hother hu _ => ?_⟩
      cases other with
      | nil => exact List.prefix_rfl
      | cons first other =>
        -- the first step of the path leads nowhere
        rw [(List.cons_prefix_cons.1 hother).1, along?_cons, hstep] at hu
        cases hu
    | some inner =>
      obtain ⟨steps, h⟩ := ih inner
      refine ⟨step :: steps, List.cons_prefix_cons.2 ⟨rfl, h.onPath⟩, ?_, rfl,
        fun other u hother hu _ => ?_⟩
      · rw [along?_cons, hstep, Option.bind_some, h.along]
      · cases other with
        | nil => exact List.nil_prefix
        | cons first other =>
          obtain ⟨rfl, hmore⟩ := List.cons_prefix_cons.1 hother
          rw [along?_cons, hstep, Option.bind_some] at hu
          exact List.cons_prefix_cons.2 ⟨rfl, h.last other u hmore hu rfl⟩

end LayoutTree.Data
