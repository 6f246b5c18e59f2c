import LayoutTree.Proofs.Data.Path
import LayoutTree.Proofs.Layout.Schema
import Mathlib.Data.List.Basic

/-!
# What the message about a refused document shows

A document that does not follow the schema is refused with a place: a value of the document, or a
field that one of its objects lacks (`isIn_of_read`). The message shows the last value on the path
to that place if it is a container, and nothing otherwise, so that next to a wrong text or number it
does not show the control that holds it.

* `shows_ofData_iff`: the message shows the last container on the path exactly if no value other
  than a container is at fault further than one step away.
-/

namespace LayoutTree.Document

/-! ## The place of a violation -/

/-- A violation is about something in a document: a field that an object lacks, or a value. -/
inductive Violation.IsIn (document : Data) : Violation → Prop
  | missing {steps : List Step} {name : String} {fields : List (String × Data)}
    (h : document.along? steps = some (.object fields)) (hname : Data.field? fields name = none) :
    IsIn document ⟨steps ++ [.field name], .required⟩
  | value {path : List Step} {wrong : Wrong} {w : Data} (h : document.along? path = some w) :
    IsIn document ⟨path, wrong⟩

/-- What is in a part of a document is in the document. -/
theorem Violation.IsIn.within {document w : Data} {v : Violation} {step : Step} (h : v.IsIn w)
    (hstep : document.follow? step = some w) : (v.within step).IsIn document := by
  cases h with
  | @missing steps name fields h hname =>
    have hsteps : document.along? (step :: steps) = some (.object fields) :=
      Data.along?_cons_eq_some.2 ⟨w, hstep, h⟩
    exact .missing hsteps hname
  | value h => exact .value (Data.along?_cons_eq_some.2 ⟨w, hstep, h⟩)

/-- A violation of a field. -/
theorem isIn_of_within {α : Type} {fields : List (String × Data)} {name : String} {w : Data}
    {r : Except Violation α} {v : Violation} (hfield : Data.field? fields name = some w)
    (hr : ∀ u, r = .error u → u.IsIn w) (h : within (.field name) r = .error v) :
    v.IsIn (.object fields) := by
  obtain ⟨u, hu, rfl⟩ := within_eq_error.1 h
  exact (hr u hu).within hfield

/-- A violation that names a field. -/
theorem isIn_of_mem {fields : List (String × Data)} {name : String} {w : Data} {wrong : Wrong}
    (h : (name, w) ∈ fields) : Violation.IsIn (.object fields) ⟨[.field name], wrong⟩ := by
  obtain ⟨u, hu⟩ := Data.exists_field?_of_mem h
  exact .value (Data.along?_cons_eq_some.2 ⟨u, hu, rfl⟩)

theorem isIn_of_here {α : Type} {w : Data} {wrong : Wrong} {v : Violation}
    (h : (here wrong : Except Violation α) = .error v) : v.IsIn w := by
  cases h
  exact .value (show w.along? [] = some w from rfl)

section Fields

variable {fields : List (String × Data)} {v : Violation}

theorem isIn_of_readType (h : readType fields = .error v) : v.IsIn (.object fields) := by
  cases hfield : Data.field? fields "type" with
  | none =>
    rw [readType, hfield] at h
    cases h
    exact .missing (show (Data.object fields).along? [] = some (.object fields) from rfl) hfield
  | some w =>
    rw [readType, hfield] at h
    refine isIn_of_within hfield (fun u hu => ?_) h
    cases w with
    | text s =>
      dsimp only at hu
      split at hu
      · exact isIn_of_here hu
      · cases hu
    | _ => exact isIn_of_here hu

theorem field?_of_present? {name : String} {w : Data} (h : present? fields name = some w) :
    Data.field? fields name = some w := by
  rw [present?] at h
  split at h
  · cases h
  · exact h

theorem isIn_of_readGroup (h : readGroup fields = .error v) : v.IsIn (.object fields) := by
  rw [readGroup] at h
  cases hpresent : present? fields "group" with
  | none => rw [hpresent] at h; cases h
  | some w =>
    rw [hpresent] at h
    refine isIn_of_within (field?_of_present? hpresent) (fun u hu => ?_) h
    cases w with
    | null => cases hu
    | text s => cases hu
    | _ => exact isIn_of_here hu

theorem isIn_of_readObject {w : Data} (h : readObject w = .error v) : v.IsIn w := by
  cases w with
  | object fields => cases h
  | _ => exact isIn_of_here h

theorem isIn_of_readProperties (h : readProperties fields = .error v) :
    v.IsIn (.object fields) := by
  rw [readProperties] at h
  cases hpresent : present? fields "properties" with
  | none => rw [hpresent] at h; cases h
  | some w =>
    rw [hpresent] at h
    exact isIn_of_within (field?_of_present? hpresent) (fun _ hu => isIn_of_readObject hu) h

theorem isIn_of_checkNames {known : List String} (h : checkNames known fields = .error v) :
    v.IsIn (.object fields) := by
  obtain ⟨name, w, hmem, rfl⟩ : ∃ name w, (name, w) ∈ fields ∧
      ⟨[.field name], .unknownField⟩ = v := by
    induction fields with
    | nil => cases h
    | cons f rest ih =>
      obtain ⟨name, w⟩ := f
      rw [checkNames] at h
      split at h
      · obtain ⟨other, w', hmem, rfl⟩ := ih h
        exact ⟨other, w', List.mem_cons_of_mem _ hmem, rfl⟩
      · cases h
        exact ⟨name, w, List.mem_cons_self, rfl⟩
  exact isIn_of_mem hmem

end Fields

/-- A list of controls is refused for its first control that is. -/
theorem exists_getElem?_of_readItems {items : List Data} {index : Nat} {v : Violation}
    (h : readItems index items = .error v) :
    ∃ i w u, items[i]? = some w ∧ readControl w = .error u ∧ u.within (.item (index + i)) = v := by
  induction items generalizing index with
  | nil => cases h
  | cons w rest ih =>
    rw [readItems] at h
    obtain h | ⟨c, hc, h⟩ := bind_eq_error.1 h
    · obtain ⟨u, hu, rfl⟩ := within_eq_error.1 h
      exact ⟨0, w, u, rfl, hu, rfl⟩
    · obtain h | ⟨more, hmore, h⟩ := bind_eq_error.1 h
      · obtain ⟨i, w, u, hw, hu, rfl⟩ := ih h
        exact ⟨i + 1, w, u, hw, hu, by rw [Nat.add_assoc, Nat.add_comm 1 i]⟩
      · cases h

theorem isIn_of_readControls {w : Data} {v : Violation}
    (hitem : ∀ i item u, w.follow? (.item i) = some item → readControl item = .error u →
      u.IsIn item)
    (h : readControls w = .error v) : v.IsIn w := by
  cases w with
  | list items =>
    rw [readControls] at h
    obtain ⟨i, item, u, hi, hu, rfl⟩ := exists_getElem?_of_readItems h
    rw [Nat.zero_add]
    exact (hitem i item u hi hu).within hi
  | text s =>
    rw [readControls] at h
    split at h
    · cases h
    · exact isIn_of_here h
  | _ => exact isIn_of_here h

theorem isIn_of_readControl {w : Data} {v : Violation} (h : readControl w = .error v) :
    v.IsIn w := by
  induction w using Data.induction_within generalizing v with
  | h w ih =>
    cases w with
    | object fields =>
      rw [readControl] at h
      simp only [bind_eq_error] at h
      obtain h | ⟨_, _, h | ⟨_, _, h | ⟨_, _, h | ⟨_, _, h | ⟨_, _, h⟩⟩⟩⟩⟩ := h
      · exact isIn_of_readType h
      · exact isIn_of_readGroup h
      · exact isIn_of_readProperties h
      · rw [readChildren_eq] at h
        cases hfield : Data.field? fields "children" with
        | none => rw [hfield] at h; cases h
        | some children =>
          rw [hfield] at h
          refine isIn_of_within hfield (fun u hu => isIn_of_readControls ?_ hu) h
          intro i item u hi hu
          exact ih _ _ item (Data.along?_field_item hfield hi) hu
      · exact isIn_of_checkNames h
      · cases h
    | _ => exact isIn_of_here h

theorem isIn_of_readDefaults {blocks : List (String × Data)} {v : Violation}
    (h : readDefaults blocks = .error v) : v.IsIn (.object blocks) := by
  obtain ⟨name, w, hmem, rfl⟩ : ∃ name w, (name, w) ∈ blocks ∧ ⟨[.field name], .notObject⟩ = v := by
    induction blocks with
    | nil => cases h
    | cons block rest ih =>
      obtain ⟨name, w⟩ := block
      rw [readDefaults] at h
      obtain h | ⟨properties, hw, h⟩ := bind_eq_error.1 h
      · refine ⟨name, w, List.mem_cons_self, ?_⟩
        cases w <;> cases h <;> rfl
      · obtain h | ⟨more, hmore, h⟩ := bind_eq_error.1 h
        · obtain ⟨other, w', hmem, rfl⟩ := ih h
          exact ⟨other, w', List.mem_cons_of_mem _ hmem, rfl⟩
        · cases h
  exact isIn_of_mem hmem

/-- A document is refused for something in it. -/
theorem isIn_of_read {fields : List (String × Data)} {v : Violation} (h : read fields = .error v) :
    v.IsIn (.object fields) := by
  rw [read] at h
  simp only [bind_eq_error] at h
  obtain h | ⟨_, _, h | ⟨_, _, h | ⟨_, _, h⟩⟩⟩ := h
  · cases hpresent : present? fields "defaults" with
    | none => rw [hpresent] at h; cases h
    | some w =>
      rw [hpresent] at h
      refine isIn_of_within (field?_of_present? hpresent) (fun u hu => ?_) h
      cases w with
      | object blocks => exact isIn_of_readDefaults hu
      | _ => exact isIn_of_here hu
  · cases hfield : Data.field? fields "controls" with
    | none => rw [hfield] at h; cases h
    | some w =>
      rw [hfield] at h
      exact isIn_of_within hfield (fun _ hu =>
        isIn_of_readControls (fun _ _ _ _ hc => isIn_of_readControl hc) hu) h
  · exact isIn_of_checkNames h
  · cases h

/-! ## The excerpt -/

/-- The part of a document that a message about a violation shows. -/
def excerptOf (v : Violation) (document : Data) : Excerpt :=
  match v.element? document with
  | some e => .element (.data e)
  | none => .none

/-- An excerpt is the last container on a path, or nothing where that is the whole document. -/
def Shows (excerpt : Excerpt) (document : Data) (path : List Step) : Prop :=
  ∃ steps e, Data.IsLast Data.isContainer document path steps e ∧
    excerpt = if steps = [] then .none else .element (.data e)

theorem Violation.element?_cons (document : Data) (step : Step) (rest : List Step) (wrong : Wrong) :
    Violation.element? ⟨step :: rest, wrong⟩ document =
      (document.follow? step).bind fun inner =>
        if (inner.deepest rest).isContainer then some (inner.deepest rest) else none := by
  rw [Violation.element?]
  dsimp only
  cases document.follow? step <;> rfl

/-- The excerpt is the last value on the path if it is a container other than the document. -/
theorem exists_excerptOf_eq (v : Violation) (document : Data) :
    ∃ steps w, Data.IsLast (fun _ => true) document v.path steps w ∧
      excerptOf v document =
        if steps = [] then .none else if w.isContainer then .element (.data w) else .none := by
  obtain ⟨steps, h⟩ := Data.exists_isLast_deepest document v.path
  refine ⟨steps, _, h, ?_⟩
  obtain ⟨path, wrong⟩ := v
  cases path with
  | nil =>
    rw [if_pos (List.prefix_nil.1 h.onPath)]
    rfl
  | cons step rest =>
    rw [excerptOf, Violation.element?_cons]
    cases hstep : document.follow? step with
    | none =>
      have hsteps : steps = [] := by
        cases steps with
        | nil => rfl
        | cons first more =>
          obtain ⟨w, hw, -⟩ := Data.along?_cons_eq_some.1 h.along
          rw [(List.cons_prefix_cons.1 h.onPath).1, hstep] at hw
          cases hw
      rw [if_pos hsteps, Option.bind_none]
    | some inner =>
      have hsteps : steps ≠ [] := by
        rintro rfl
        have hone := h.last [step] inner ⟨rest, rfl⟩
          (Data.along?_cons_eq_some.2 ⟨inner, hstep, rfl⟩) rfl
        cases List.prefix_nil.1 hone
      have hdeepest : document.deepest (step :: rest) = inner.deepest rest := by
        rw [Data.deepest, hstep]
      rw [if_neg hsteps, hdeepest, Option.bind_some]
      cases (inner.deepest rest).isContainer <;> rfl

/-- A value other than a container ends a path: its container is the one before it. -/
theorem isLast_isContainer {document w : Data} {path steps : List Step} {step : Step}
    (h : Data.IsLast (fun _ => true) document path (steps ++ [step]) w)
    (hw : w.isContainer = false) :
    ∃ e, Data.IsLast Data.isContainer document path steps e := by
  have halong := h.along
  rw [Data.along?_append] at halong
  obtain ⟨e, he, hstep⟩ := Option.bind_eq_some_iff.1 halong
  obtain ⟨w', hw', -⟩ := Data.along?_cons_eq_some.1 hstep
  refine ⟨e, (List.prefix_append steps [step]).trans h.onPath, he, Data.isContainer_of_follow? hw',
    fun other u hother hu hcontainer => ?_⟩
  obtain rfl | hbefore := List.prefix_concat_iff.1 (h.last other u hother hu rfl)
  · -- the value at the end is no container
    rw [h.along] at hu
    cases hu
    exact absurd hcontainer (Bool.eq_false_iff.1 hw)
  · exact hbefore

theorem shows_excerptOf_iff {document w : Data} {v : Violation} {steps : List Step}
    (hdocument : document.isContainer = true)
    (h : Data.IsLast (fun _ => true) document v.path steps w) :
    Shows (excerptOf v document) document v.path ↔ w.isContainer = true ∨ steps.length ≤ 1 := by
  obtain ⟨steps', w', h', hexcerpt⟩ := exists_excerptOf_eq v document
  cases h.steps_eq h'
  cases Option.some.inj (h.along.symm.trans h'.along)
  rw [hexcerpt]
  cases hw : w.isContainer with
  | true =>
    refine ⟨fun _ => .inl rfl, fun _ => ⟨steps, w, ?_, by rw [if_pos rfl]⟩⟩
    exact ⟨h.onPath, h.along, hw, fun other u hother hu _ => h.last other u hother hu rfl⟩
  | false =>
    obtain rfl | ⟨before, step, rfl⟩ := List.eq_nil_or_concat' steps
    · cases h.along
      cases hdocument.symm.trans hw
    · obtain ⟨e, he⟩ := isLast_isContainer h hw
      have hone : (before ++ [step]).length ≤ 1 ↔ before = [] := by simp
      rw [hone, if_neg (by simp), if_neg Bool.false_ne_true]
      constructor
      · rintro ⟨steps, e', he', hnone⟩
        cases he.steps_eq he'
        right
        by_contra hbefore
        rw [if_neg hbefore] at hnone
        cases hnone
      · rintro (hfalse | rfl)
        · cases hfalse
        · exact ⟨[], e, he, rfl⟩

/-- Next to a missing field the last value on the path is the object that lacks it, else it is the
value at fault. -/
theorem isContainer_or_iff_of_isIn {document w : Data} {v : Violation} {steps : List Step}
    (hin : v.IsIn document) (h : Data.IsLast (fun _ => true) document v.path steps w) :
    w.isContainer = true ∨ steps.length ≤ 1 ↔
      ∀ u, document.along? v.path = some u → u.isContainer = true ∨ v.path.length ≤ 1 := by
  cases hin with
  | @missing before name fields hfields hname =>
    have hnone : document.along? (before ++ [.field name]) = none := by
      have hfollow : (Data.object fields).follow? (.field name) = none := hname
      rw [Data.along?_append, hfields, Option.bind_some, Data.along?_cons, hfollow,
        Option.bind_none]
    have hlast : steps <+: before := by
      refine (List.prefix_concat_iff.1 h.onPath).resolve_left fun hwhole => ?_
      cases (hwhole ▸ hnone).symm.trans h.along
    have hsteps : before = steps :=
      (h.last _ _ (List.prefix_append _ _) hfields rfl).eq_of_length_le hlast.length_le
    subst hsteps
    cases hfields.symm.trans h.along
    refine iff_of_true (.inl rfl) fun u hu => ?_
    cases hnone.symm.trans hu
  | @value path wrong u hu =>
    have hsteps : path = steps :=
      (h.last _ _ List.prefix_rfl hu rfl).eq_of_length_le h.onPath.length_le
    subst hsteps
    cases hu.symm.trans h.along
    refine ⟨fun hw u hu' => ?_, fun hall => hall w hu⟩
    cases hu.symm.trans hu'
    exact hw

/-- The message about a refused document shows the last container on the path to what is wrong
exactly if no value other than a container is at fault further than one step away. -/
theorem shows_ofData_iff (file : FilePath) {fields : List (String × Data)} {v : Violation}
    (hread : read fields = .error v) :
    ∃ context, ofData file (.object fields) =
        .error (.source ⟨.invalidDocument (some v.message), context⟩) ∧
      (Shows context.excerpt (.object fields) v.path ↔
        ∀ w, (Data.object fields).along? v.path = some w →
          w.isContainer = true ∨ v.path.length ≤ 1) := by
  refine ⟨{ Context.ofFile file.text with excerpt := excerptOf v (.object fields) }, ?_, ?_⟩
  · rw [ofData, hread]
    rfl
  · obtain ⟨steps, w, h, -⟩ := exists_excerptOf_eq v (.object fields)
    exact (shows_excerptOf_iff rfl h).trans (isContainer_or_iff_of_isIn (isIn_of_read hread) h)

/-- A document with a control that has no type. -/
def untypedControl : List (String × Data) :=
  [("controls", .list [.object [("group", .text "Main")]])]

theorem shows_ofData_untypedControl :
    ∃ v context, read untypedControl = .error v ∧
      ofData (.ofString "a.json") (.object untypedControl) =
        .error (.source ⟨.invalidDocument (some v.message), context⟩) ∧
      Shows context.excerpt (.object untypedControl) v.path := by
  have hread : read untypedControl =
      .error ⟨[.field "controls", .item 0, .field "type"], .required⟩ := by rfl
  obtain ⟨context, hdata, hshows⟩ := shows_ofData_iff (.ofString "a.json") hread
  exact ⟨_, context, hread, hdata, hshows.2 nofun⟩

/-- A document with a control whose type is a number. -/
def numberedControl : List (String × Data) :=
  [("controls", .list [.object [("type", .integer 5)]])]

/-- The message about the type does not show the control. -/
theorem not_shows_ofData_numberedControl :
    ∃ v context, read numberedControl = .error v ∧
      ofData (.ofString "a.json") (.object numberedControl) =
        .error (.source ⟨.invalidDocument (some v.message), context⟩) ∧
      ¬ Shows context.excerpt (.object numberedControl) v.path := by
  refine ⟨⟨[.field "controls", .item 0, .field "type"], .notText⟩, _, rfl, rfl, ?_⟩
  rintro ⟨steps, e, h, hexcerpt⟩
  have hcontrol := h.last [.field "controls", .item 0] (.object [("type", .integer 5)])
    ⟨[.field "type"], rfl⟩ rfl rfl
  rw [if_neg (by rintro rfl; cases List.prefix_nil.1 hcontrol)] at hexcerpt
  cases hexcerpt

end LayoutTree.Document
