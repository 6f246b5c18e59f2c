import LayoutTree.Layout.YamlFormat
import LayoutTree.Proofs.Data.Path
import LayoutTree.Proofs.Layout.Schema

/-!
# Empty collections left out

In YAML a key without a value stands for the empty text. A layout document takes it for an empty
collection in place of its defaults, its controls, and the properties and children of a control, at
any depth (`readControl_blanked`). It does not in place of the defaults of one type, which have to
be an object.

* `forestOf_blanked_iff`: with some empty collections replaced by the empty text a document is read
  as before exactly if none of them is the defaults of one type.
-/

namespace LayoutTree

/-! ## Places of collections -/

namespace Document

/-- The places of collections in a control: its properties, its children, and those in a child. -/
def IsPlaceInControl : List Step → Prop
  | [.field name] => name = "properties" ∨ name = "children"
  | .field name :: .item _ :: path => name = "children" ∧ IsPlaceInControl path
  | _ => False

/-- The places of collections in a document: the defaults, the defaults of one type, the controls,
and those in a control. -/
def IsPlace : List Step → Prop
  | [.field name] => name = "defaults" ∨ name = "controls"
  | [.field name, .field _] => name = "defaults"
  | .field name :: .item _ :: path => name = "controls" ∧ IsPlaceInControl path
  | _ => False

/-- A control holds collections as its properties and its children only. -/
theorem IsPlaceInControl.name {name : String} {path : List Step}
    (h : IsPlaceInControl (.field name :: path)) : name = "properties" ∨ name = "children" := by
  match path, h with
  | [], h => exact h
  | .item _ :: _, h => exact .inr h.1

/-- Nothing in the properties of a control counts as a collection. -/
theorem not_isPlaceInControl_properties (step : Step) (path : List Step) :
    ¬ IsPlaceInControl (.field "properties" :: step :: path) := by
  cases step <;> simp [IsPlaceInControl]

/-- Whether a value is an empty collection. -/
def isEmptyCollection : Data → Bool
  | .list items => items.isEmpty
  | .object fields => fields.isEmpty
  | _ => false

/-- All of some places in a value are of some kind and hold empty collections. -/
def Empties (kind : List Step → Prop) (places : List Step → Bool) (v : Data) : Prop :=
  ∀ path, places path = true → kind path ∧ ∃ w, v.along? path = some w ∧ isEmptyCollection w = true

theorem Empties.mono {kind other : List Step → Prop} {places : List Step → Bool} {v : Data}
    (h : Empties kind places v) (hkind : ∀ path, kind path → other path) :
    Empties other places v :=
  fun path hpath => ⟨hkind path (h path hpath).1, (h path hpath).2⟩

theorem Empties.inside {kind : List Step → Prop} {places : List Step → Bool} {v w : Data}
    {step : Step} (h : Empties kind places v) (hstep : v.follow? step = some w) :
    Empties (fun path => kind (step :: path)) (Data.inside step places) w := by
  intro path hpath
  obtain ⟨hkind, e, he, hempty⟩ := h (step :: path) hpath
  rw [Data.along?_cons, hstep, Option.bind_some] at he
  exact ⟨hkind, e, he, hempty⟩

theorem Empties.eq_false {kind : List Step → Prop} {places : List Step → Bool} {v : Data}
    (h : Empties kind places v) {path : List Step} (hkind : ¬ kind path) : places path = false :=
  Bool.eq_false_iff.2 fun hpath => hkind (h path hpath).1

/-- At a place one step away stands an empty collection. -/
theorem Empties.exists_follow? {kind : List Step → Prop} {places : List Step → Bool} {v : Data}
    {step : Step} (h : Empties kind places v) (hplace : places [step] = true) :
    ∃ w, v.follow? step = some w ∧ isEmptyCollection w = true := by
  obtain ⟨-, e, he, hempty⟩ := h [step] hplace
  obtain ⟨w, hw, hwe⟩ := Data.along?_cons_eq_some.1 he
  exact ⟨w, hw, Option.some.inj hwe ▸ hempty⟩

/-! ## Fields that may be left out -/

theorem checkNames_blankedFields (known : List String) (places : List Step → Bool)
    (fields : List (String × Data)) :
    checkNames known (Data.blankedFields places fields) = checkNames known fields := by
  induction fields with
  | nil => rfl
  | cons f rest ih => rw [Data.blankedFields, checkNames, ih, checkNames]

theorem present?_blankedFields {places : List Step → Bool} {name : String}
    (h : ∀ path, places (.field name :: path) = false) (fields : List (String × Data)) :
    present? (Data.blankedFields places fields) name = present? fields name := by
  rw [present?.eq_def, Data.field?_blankedFields_of_forall h, present?.eq_def]

theorem present?_of_field? {fields : List (String × Data)} {name : String} {v : Data}
    (h : Data.field? fields name = some v) (hv : v ≠ .text "") : present? fields name = some v := by
  rw [present?, h]
  split
  · next heq => exact absurd (Option.some.inj heq) hv
  · rfl

/-- Where nothing below a field is replaced, its value stays, or an empty collection counts as
missing. -/
theorem present?_blankedFields_or {kind : List Step → Prop} {places : List Step → Bool}
    {fields : List (String × Data)} {name : String} (h : Empties kind places (.object fields))
    (hbelow : ∀ step path, places (.field name :: step :: path) = false) :
    present? (Data.blankedFields places fields) name = present? fields name ∨
      present? (Data.blankedFields places fields) name = none ∧
        ∃ w, present? fields name = some w ∧ isEmptyCollection w = true := by
  by_cases hplace : places [.field name] = true
  · obtain ⟨w, hw, hempty⟩ := h.exists_follow? hplace
    have hw : Data.field? fields name = some w := hw
    refine .inr ⟨?_, w, present?_of_field? hw ?_, hempty⟩
    · simp only [present?, Data.field?_blankedFields, hw, Option.map_some, Data.blankedAt, hplace,
        if_true]
    · rintro rfl
      cases hempty
  · refine .inl (present?_blankedFields ?_ fields)
    rintro (_ | ⟨step, path⟩)
    · exact Bool.eq_false_iff.2 hplace
    · exact hbelow step path

theorem readObject_eq_nil {w : Data} {fields : List (String × Data)}
    (hempty : isEmptyCollection w = true) (hread : readObject w = .ok fields) : fields = [] := by
  cases w <;> simp_all [isEmptyCollection, readObject, here]

/-! ## Controls -/

/-- The properties of a control may be left out where they are empty. -/
theorem readProperties_blankedFields {places : List Step → Bool}
    {fields properties : List (String × Data)}
    (h : Empties IsPlaceInControl places (.object fields))
    (hread : readProperties fields = .ok properties) :
    readProperties (Data.blankedFields places fields) = .ok properties := by
  have hbelow (step path) : places (.field "properties" :: step :: path) = false :=
    h.eq_false (not_isPlaceInControl_properties step path)
  obtain hsame | ⟨hnone, w, hw, hempty⟩ := present?_blankedFields_or h hbelow
  · rw [readProperties, hsame, ← readProperties, hread]
  · rw [readProperties, hw] at hread
    rw [readObject_eq_nil hempty (within_eq_ok.1 hread), readProperties, hnone, within_eq_ok]

/-- The items of a list are read as before if each item is. -/
theorem readItems_blanked {places : List Step → Bool} {items : List Data} {index : Nat}
    {controls : List Control}
    (hitem : ∀ i v, items[i]? = some v → places [.item (index + i)] = false ∧
      ∀ c, readControl v = .ok c →
        readControl (v.blanked (Data.inside (.item (index + i)) places)) = .ok c)
    (hread : readItems index items = .ok controls) :
    readItems index (Data.blankedItems places index items) = .ok controls := by
  induction items generalizing index controls with
  | nil => exact hread
  | cons v rest ih =>
    obtain ⟨hplace, hv⟩ := hitem 0 v rfl
    rw [Nat.add_zero] at hplace hv
    simp only [readItems, bind_eq_ok, within_eq_ok] at hread
    obtain ⟨c, hc, more, hmore, heq⟩ := hread
    have hrest := ih (fun i u hu => by
      rw [Nat.add_assoc, Nat.add_comm 1 i]
      exact hitem (i + 1) u hu) hmore
    simp only [Data.blankedItems, readItems, bind_eq_ok, within_eq_ok, hplace, Bool.false_eq_true,
      if_false]
    exact ⟨c, hv c hc, more, hrest, heq⟩

/-- A list of controls may be left out where it is empty, and is read as before if its items are. -/
theorem readControls_blankedAt {kind : List Step → Prop} {places : List Step → Bool} {v w : Data}
    {step : Step} {controls : List Control} (h : Empties kind places v)
    (hstep : v.follow? step = some w)
    (hkind : ∀ i path, kind (step :: .item i :: path) → IsPlaceInControl path)
    (hcontrol : ∀ i u places' c, w.follow? (.item i) = some u →
      Empties IsPlaceInControl places' u → readControl u = .ok c →
        readControl (u.blanked places') = .ok c)
    (hread : readControls w = .ok controls) :
    readControls (Data.blankedAt places step w) = .ok controls := by
  by_cases hplace : places [step] = true
  · obtain ⟨u, hu, hempty⟩ := h.exists_follow? hplace
    cases hstep.symm.trans hu
    rw [Data.blankedAt, if_pos hplace, ← hread]
    -- an empty collection that is read as controls is the empty list
    cases w <;> simp_all [isEmptyCollection, readControls, readItems, here]
  · rw [Data.blankedAt, if_neg hplace]
    cases w with
    | list items =>
      rw [Data.blanked, readControls]
      refine readItems_blanked (fun i u hu => ?_) (readControls.eq_1 items ▸ hread)
      rw [Nat.zero_add]
      have hitem : (Data.list items).follow? (.item i) = some u := hu
      have hplace : places [step, .item i] = false := h.eq_false fun hp => hkind i [] hp
      refine ⟨hplace, fun c hc => ?_⟩
      exact hcontrol i u _ c hitem (((h.inside hstep).inside hitem).mono (hkind i)) hc
    | _ => exact hread

/-- A control is read as before with empty collections left out, at any depth. -/
theorem readControl_blanked {places : List Step → Bool} {v : Data} {c : Control}
    (h : Empties IsPlaceInControl places v) (hread : readControl v = .ok c) :
    readControl (v.blanked places) = .ok c := by
  induction v using Data.induction_within generalizing places c with
  | h v ih =>
    cases v with
    | object fields =>
      rw [readControl] at hread
      rw [Data.blanked, readControl]
      simp only [bind_eq_ok] at hread ⊢
      obtain ⟨type, htype, group, hgroup, properties, hproperties, children, hchildren, u, hnames,
        heq⟩ := hread
      have hother (name) (hp : name ≠ "properties") (hc : name ≠ "children") (path) :
          places (.field name :: path) = false :=
        h.eq_false fun hplace => hplace.name.elim hp hc
      refine ⟨type, ?_, group, ?_, properties, readProperties_blankedFields h hproperties, children,
        ?_, u, ?_, heq⟩
      · rw [readType, Data.field?_blankedFields_of_forall (hother "type" (by decide) (by decide)),
          ← readType, htype]
      · rw [readGroup, present?_blankedFields (hother "group" (by decide) (by decide)),
          ← readGroup, hgroup]
      · rw [readChildren_eq] at hchildren ⊢
        rw [Data.field?_blankedFields]
        cases hfield : Data.field? fields "children" with
        | none => rwa [hfield] at hchildren
        | some w =>
          rw [hfield] at hchildren
          refine within_eq_ok.2 (readControls_blankedAt h hfield (fun _ _ hplace => hplace.2) ?_
            (within_eq_ok.1 hchildren))
          intro i child _ _ hchild hempties hc
          exact ih _ _ child (Data.along?_field_item hfield hchild) hempties hc
      · rw [checkNames_blankedFields, hnames]
    | _ => cases hread

/-! ## Documents -/

/-- A document is read as before with empty collections left out, apart from the defaults of one
type. -/
theorem read_blankedFields {places : List Step → Bool} {fields : List (String × Data)}
    {document : Document} (h : Empties IsPlace places (.object fields))
    (hblocks : ∀ type, places [.field "defaults", .field type] = false)
    (hread : read fields = .ok document) :
    read (Data.blankedFields places fields) = .ok document := by
  simp only [read, bind_eq_ok, within_eq_ok] at hread ⊢
  obtain ⟨defaults, hdefaults, controls, hcontrols, u, hnames, heq⟩ := hread
  refine ⟨defaults, ?_, controls, ?_, u, ?_, heq⟩
  · have hbelow (step path) : places (.field "defaults" :: step :: path) = false := by
      match step, path with
      | .field type, [] => exact hblocks type
      | .field _, _ :: _ => exact h.eq_false nofun
      | .item _, path => exact h.eq_false fun hplace => absurd hplace.1 (by decide)
    obtain hsame | ⟨hnone, w, hw, hempty⟩ := present?_blankedFields_or h hbelow
    · rwa [hsame]
    · rw [hw] at hdefaults
      obtain ⟨blocks, hblocks, hdefaults⟩ := bind_eq_ok.1 hdefaults
      rw [hnone, ← hdefaults, readObject_eq_nil hempty hblocks, readDefaults]
  · rw [Data.field?_blankedFields]
    cases hfield : Data.field? fields "controls" with
    | none => rwa [hfield] at hcontrols
    | some w =>
      rw [hfield] at hcontrols
      exact readControls_blankedAt h hfield (fun _ _ hplace => hplace.2)
        (fun _ _ _ _ _ hempties hc => readControl_blanked hempties hc) hcontrols
  · rw [checkNames_blankedFields, hnames]

/-- The defaults of a type are an object. -/
theorem exists_object_of_readDefaults {blocks : List (String × Data)}
    {t : List (String × List (String × Data))} {type : String} {v : Data}
    (hread : readDefaults blocks = .ok t) (hv : Data.field? blocks type = some v) :
    ∃ properties, v = .object properties := by
  induction blocks generalizing t with
  | nil => cases hv
  | cons block rest ih =>
    obtain ⟨name, w⟩ := block
    simp only [readDefaults, bind_eq_ok, within_eq_ok] at hread
    obtain ⟨properties, hw, more, hmore, -⟩ := hread
    rw [Data.field?, List.lookup_cons] at hv
    split at hv
    · cases hv
      cases v with
      | object properties => exact ⟨properties, rfl⟩
      | _ => cases hw
    · exact ih hmore hv

/-- With the defaults of one type left out, a document is refused. -/
theorem read_blankedFields_ne_ok {places : List Step → Bool} {fields : List (String × Data)}
    {document : Document} {type : String} (h : Empties IsPlace places (.object fields))
    (hblock : places [.field "defaults", .field type] = true) :
    read (Data.blankedFields places fields) ≠ .ok document := by
  intro hread
  simp only [read, bind_eq_ok, within_eq_ok] at hread
  obtain ⟨defaults, hdefaults, -⟩ := hread
  obtain ⟨-, e, he, -⟩ := h _ hblock
  obtain ⟨w, hw, he⟩ := Data.along?_cons_eq_some.1 he
  obtain ⟨v, hv, -⟩ := Data.along?_cons_eq_some.1 he
  cases w with
  | object blocks =>
    have hwhole : places [.field "defaults"] = false := by
      by_contra hplace
      obtain ⟨u, hu, hempty⟩ := h.exists_follow? (eq_true_of_ne_false hplace)
      cases hw.symm.trans hu
      rw [List.isEmpty_iff.1 hempty] at hv
      cases hv
    have hfield : Data.field? (Data.blankedFields places fields) "defaults" =
        some (.object (Data.blankedFields (Data.inside (.field "defaults") places) blocks)) := by
      rw [Data.field?_blankedFields, show Data.field? fields "defaults" = _ from hw,
        Option.map_some, Data.blankedAt, hwhole, if_neg Bool.false_ne_true, Data.blanked]
    have hempty : Data.field? (Data.blankedFields (Data.inside (.field "defaults") places) blocks)
        type = some (.text "") := by
      rw [Data.field?_blankedFields, show Data.field? blocks type = _ from hv, Option.map_some,
        Data.blankedAt, show Data.inside _ places [.field type] = true from hblock, if_pos rfl]
    rw [present?_of_field? hfield fun h => by cases h] at hdefaults
    obtain ⟨properties, hobject⟩ := exists_object_of_readDefaults hdefaults hempty
    cases hobject
  | _ => cases hv

end Document

namespace YamlFormat

open Document

/-- The forest of a decoded YAML document from a file. -/
def forestOf (file : FilePath) : Data → Except ParseFailure (List Descriptor)
  | .text "" => .ok []
  | document => ofData file document

/-- The forest of a file is that of the document in it. -/
theorem parse_eq_forestOf {store : FileStore} {file : FilePath} {location : Location}
    {s : List Char} {document : Data} (hread : Source.read store file = .ok (location, s))
    (hdocument : Yaml.readChars s = .ok (some document)) :
    parse store file = forestOf file document := by
  rw [parse, hread]
  simp only [hdocument]
  by_cases hempty : document = .text ""
  · subst hempty
    rfl
  · rw [forestOf.eq_2 file document hempty]
    split <;> simp_all

/-- A document with a forest is an object that is read. -/
theorem forestOf_object_eq_ok {file : FilePath} {fields : List (String × Data)}
    {forest : List Descriptor} :
    forestOf file (.object fields) = .ok forest ↔ ∃ d, read fields = .ok d ∧ d.forest = forest := by
  rw [forestOf.eq_2 file (.object fields) nofun, ofData]
  cases read fields <;> simp

/-- Some empty collections of a document may be left out, with the same forest, exactly if none of
them is the defaults of one type. -/
theorem forestOf_blanked_iff {file : FilePath} {document : Data} {forest : List Descriptor}
    {places : List Step → Bool} (hok : forestOf file document = .ok forest)
    (hplaces : Empties IsPlace places document) :
    forestOf file (document.blanked places) = .ok forest ↔
      ∀ type, places [.field "defaults", .field type] = false := by
  cases document with
  | text s =>
    -- a text has no place to leave out
    refine ⟨fun _ type => Bool.eq_false_iff.2 fun hplace => ?_, fun _ => hok⟩
    obtain ⟨-, e, he, -⟩ := hplaces _ hplace
    cases he
  | object fields =>
    rw [Data.blanked, forestOf_object_eq_ok]
    obtain ⟨d, hread, hforest⟩ := forestOf_object_eq_ok.1 hok
    constructor
    · rintro ⟨d', hread', -⟩ type
      exact Bool.eq_false_iff.2 fun hblock => read_blankedFields_ne_ok hplaces hblock hread'
    · exact fun h => ⟨d, read_blankedFields hplaces h hread, hforest⟩
  | _ => nomatch hok

/-- A document with empty collections as the defaults, the properties of a control and the children
of its child. -/
def sparseDocument : Data :=
  .object [("defaults", .object []), ("controls", .list [
    .object [("type", .text "StackPanel"), ("properties", .object []), ("children", .list [
      .object [("type", .text "Button"), ("children", .list [])]])]])]

/-- The places of its empty collections. -/
def sparsePlaces (path : List Step) : Bool :=
  path ∈ [[.field "defaults"], [.field "controls", .item 0, .field "properties"],
    [.field "controls", .item 0, .field "children", .item 0, .field "children"]]

theorem forestOf_blanked_sparseDocument :
    ∃ forest, forestOf (.ofString "a.yaml") sparseDocument = .ok forest ∧
      forestOf (.ofString "a.yaml") (sparseDocument.blanked sparsePlaces) = .ok forest := by
  obtain ⟨d, hread⟩ : ∃ d, forestOf (.ofString "a.yaml") sparseDocument = .ok d := ⟨_, rfl⟩
  have hplaces : Empties IsPlace sparsePlaces sparseDocument := by
    intro path hpath
    rcases List.mem_cons.1 (of_decide_eq_true hpath) with rfl | hpath
    · exact ⟨.inl rfl, .object [], rfl, rfl⟩
    rcases List.mem_cons.1 hpath with rfl | hpath
    · exact ⟨⟨rfl, .inl rfl⟩, .object [], rfl, rfl⟩
    · rw [List.mem_singleton.1 hpath]
      exact ⟨⟨rfl, rfl, .inr rfl⟩, .list [], rfl, rfl⟩
  refine ⟨d, hread, (forestOf_blanked_iff hread hplaces).2 fun type => ?_⟩
  simp [sparsePlaces]

/-- A document with empty defaults for one type. -/
def plainButtons : Data :=
  .object [("defaults", .object [("Button", .object [])]),
    ("controls", .list [.object [("type", .text "Button")]])]

/-- Without a value the defaults of the type are an empty text, which is refused. -/
theorem not_forestOf_blanked_plainButtons :
    Empties IsPlace (fun path => path = [.field "defaults", .field "Button"]) plainButtons ∧
      ∃ forest, forestOf (.ofString "a.yaml") plainButtons = .ok forest ∧
        forestOf (.ofString "a.yaml")
          (plainButtons.blanked fun path => path = [.field "defaults", .field "Button"]) ≠
            .ok forest := by
  refine ⟨fun path hpath => ?_, _, rfl, ?_⟩
  · rw [of_decide_eq_true hpath]
    exact ⟨rfl, .object [], rfl, rfl⟩
  · nofun

end YamlFormat

end LayoutTree
