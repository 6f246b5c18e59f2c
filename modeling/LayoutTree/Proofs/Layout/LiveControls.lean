import LayoutTree.Layout.XmlFormat
import LayoutTree.Proofs.Layout.Levels
import LayoutTree.Proofs.Xml.Route

/-!
# Live controls

A control of an XML layout is live if it stands in a section of controls below the root, or in a
live control that has a type (`Live`). A live control with a type stands for a node, and the nodes
are nested as these controls are; a live control without a type is reported, and what it holds is
neither. The reading descends in the order of the document, so both statements are about the list
of live controls in that order (`liveControls`, `inOrder_liveControls`).

* `tellsOf_forest`: the forest is that of the live controls with a type, and the log that of those
  without one.
-/

namespace LayoutTree.XmlFormat

open LayoutTree.Text

/-! ## Live controls -/

/-- The type of a control. -/
def typeOf (e : Xml.Element) : String :=
  trimmed ((attribute? "type" e.attributes).getD "")

/-- The group of a control, if it is in one. -/
def groupOf (e : Xml.Element) : Option String :=
  let group := trimmed ((attribute? "group" e.attributes).getD "")
  if group.isEmpty then none else some group

/-- Whether a control has a type that is not blank. -/
def isTyped (e : Xml.Element) : Bool :=
  !(typeOf e).isEmpty

/-- The controls that count, with their routes: those in a section of controls below the root, and
those in a control that counts and has a type. -/
inductive Live (root : Xml.Element) : List Nat → Xml.Element → Prop
  /-- A control in a section. -/
  | inSection {i j : Nat} {s e : Xml.Element} (atRoot : root.children[i]? = some s)
      (kind : key s.name = "controls") (child : s.children[j]? = some e)
      (control : isControl e.name = true) : Live root [i, j] e
  /-- A control in a control. -/
  | nested {route : List Nat} {i : Nat} {c e : Xml.Element} (parent : Live root route c)
      (typed : isTyped c = true) (child : c.children[i]? = some e)
      (control : isControl e.name = true) : Live root (route ++ [i]) e

theorem Live.at? {root e : Xml.Element} {route : List Nat} (h : Live root route e) :
    root.at? route = some e := by
  induction h with
  | inSection atRoot kind child control =>
    rw [Xml.Element.at?, atRoot, Option.bind_some, Xml.Element.at?, child, Option.bind_some,
      Xml.Element.at?]
  | nested parent typed child control ih =>
    rw [Xml.Element.at?_append_singleton, ih, Option.bind_some, child]

mutual

/-- A control and the controls in it that count if it does, in the order of the document. -/
def liveAt (route : List Nat) : Xml.Element → List (List Nat × Xml.Element)
  | .mk name attributes text children =>
    (route, .mk name attributes text children) ::
      if isTyped (.mk name attributes text children) then liveIn route 0 children else []

/-- The controls among siblings and in them that count if those among the siblings do. -/
def liveIn (route : List Nat) (position : Nat) : List Xml.Element → List (List Nat × Xml.Element)
  | [] => []
  | e :: rest =>
    (if isControl e.name then liveAt (route ++ [position]) e else []) ++
      liveIn route (position + 1) rest

end

/-- The controls that count in the sections among the children of the root. -/
def liveSections (position : Nat) : List Xml.Element → List (List Nat × Xml.Element)
  | [] => []
  | s :: rest =>
    (if key s.name = "controls" then liveIn [position] 0 s.children else []) ++
      liveSections (position + 1) rest

/-- The controls of a document that count, in its order. -/
def liveControls (root : Xml.Element) : List (List Nat × Xml.Element) :=
  liveSections 0 root.children

theorem liveAt_eq (route : List Nat) (e : Xml.Element) :
    liveAt route e = (route, e) :: if isTyped e then liveIn route 0 e.children else [] := by
  cases e
  rw [liveAt]
  rfl

/-! ### The order of the document -/

mutual

theorem exists_route_of_mem_liveAt {route : List Nat} :
    ∀ {e : Xml.Element}, ∀ x ∈ liveAt route e, ∃ more, x.1 = route ++ more
  | .mk _ _ _ children, x, hx => by
    rw [liveAt, List.mem_cons] at hx
    rcases hx with rfl | hx
    · exact ⟨[], (List.append_nil route).symm⟩
    · split at hx
      · obtain ⟨i, more, -, hroute⟩ := exists_route_of_mem_liveIn x hx
        exact ⟨i :: more, hroute⟩
      · cases hx

theorem exists_route_of_mem_liveIn {route : List Nat} {position : Nat} :
    ∀ {es : List Xml.Element}, ∀ x ∈ liveIn route position es,
      ∃ i more, position ≤ i ∧ x.1 = route ++ i :: more
  | [], x, hx => by cases hx
  | e :: rest, x, hx => by
    rw [liveIn, List.mem_append] at hx
    rcases hx with hx | hx
    · split at hx
      · obtain ⟨more, hroute⟩ := exists_route_of_mem_liveAt x hx
        exact ⟨position, more, Nat.le_refl _, by rw [hroute, List.append_assoc]; rfl⟩
      · cases hx
    · obtain ⟨i, more, hi, hroute⟩ := exists_route_of_mem_liveIn x hx
      exact ⟨i, more, Nat.le_of_succ_le hi, hroute⟩

end

theorem exists_route_of_mem_liveSections {position : Nat} {es : List Xml.Element} :
    ∀ x ∈ liveSections position es, ∃ i more, position ≤ i ∧ x.1 = i :: more := by
  induction es generalizing position with
  | nil =>
    intro x hx
    cases hx
  | cons s rest ih =>
    intro x hx
    rw [liveSections, List.mem_append] at hx
    rcases hx with hx | hx
    · split at hx
      · obtain ⟨i, more, -, hroute⟩ := exists_route_of_mem_liveIn x hx
        exact ⟨position, i :: more, Nat.le_refl _, hroute⟩
      · cases hx
    · obtain ⟨i, more, hi, hroute⟩ := ih x hx
      exact ⟨i, more, Nat.le_of_succ_le hi, hroute⟩

theorem append_cons_lt_append_cons {i j : Nat} (h : i < j) (route more less : List Nat) :
    route ++ i :: more < route ++ j :: less :=
  List.append_left_lt (List.Lex.rel h)

theorem lt_append_cons (i : Nat) (route more : List Nat) : route < route ++ i :: more := by
  have h : route ++ [] < route ++ i :: more := List.append_left_lt List.Lex.nil
  rwa [List.append_nil] at h

mutual

theorem pairwise_liveAt (route : List Nat) :
    ∀ e : Xml.Element, (liveAt route e).Pairwise fun x y => x.1 < y.1
  | .mk _ _ _ children => by
    rw [liveAt, List.pairwise_cons]
    split
    · refine ⟨fun x hx => ?_, pairwise_liveIn route 0 children⟩
      obtain ⟨i, more, -, hroute⟩ := exists_route_of_mem_liveIn x hx
      rw [hroute]
      exact lt_append_cons i route more
    · exact ⟨fun x hx => absurd hx List.not_mem_nil, List.Pairwise.nil⟩

theorem pairwise_liveIn (route : List Nat) (position : Nat) :
    ∀ es : List Xml.Element, (liveIn route position es).Pairwise fun x y => x.1 < y.1
  | [] => List.Pairwise.nil
  | e :: rest => by
    rw [liveIn, List.pairwise_append]
    refine ⟨?_, pairwise_liveIn route (position + 1) rest, fun x hx y hy => ?_⟩
    · split
      · exact pairwise_liveAt (route ++ [position]) e
      · exact List.Pairwise.nil
    · obtain ⟨j, less, hj, hy⟩ := exists_route_of_mem_liveIn y hy
      split at hx
      · obtain ⟨more, hx⟩ := exists_route_of_mem_liveAt x hx
        rw [hx, hy, List.append_assoc]
        exact append_cons_lt_append_cons hj route more less
      · cases hx

end

theorem pairwise_liveSections (position : Nat) (es : List Xml.Element) :
    (liveSections position es).Pairwise fun x y => x.1 < y.1 := by
  induction es generalizing position with
  | nil => exact List.Pairwise.nil
  | cons s rest ih =>
    rw [liveSections, List.pairwise_append]
    refine ⟨?_, ih (position + 1), fun x hx y hy => ?_⟩
    · split
      · exact pairwise_liveIn [position] 0 s.children
      · exact List.Pairwise.nil
    · obtain ⟨j, less, hj, hy⟩ := exists_route_of_mem_liveSections y hy
      split at hx
      · obtain ⟨i, more, -, hx⟩ := exists_route_of_mem_liveIn x hx
        rw [hx, hy]
        exact append_cons_lt_append_cons hj [] (i :: more) less
      · cases hx

/-! ### The controls that are listed -/

section Listed

variable {root : Xml.Element}

mutual

theorem live_of_mem_liveAt {route : List Nat} :
    ∀ {e : Xml.Element}, Live root route e → ∀ x ∈ liveAt route e, Live root x.1 x.2
  | .mk _ _ _ children, hlive, x, hx => by
    rw [liveAt, List.mem_cons] at hx
    rcases hx with rfl | hx
    · exact hlive
    · split at hx
      · next htyped =>
        refine live_of_mem_liveIn (fun i e he hcontrol => ?_) x hx
        rw [Nat.zero_add]
        exact .nested hlive htyped he hcontrol
      · cases hx

theorem live_of_mem_liveIn {route : List Nat} {position : Nat} :
    ∀ {es : List Xml.Element},
      (∀ i e, es[i]? = some e → isControl e.name = true → Live root (route ++ [position + i]) e) →
        ∀ x ∈ liveIn route position es, Live root x.1 x.2
  | [], _, x, hx => by cases hx
  | e :: rest, hlive, x, hx => by
    rw [liveIn, List.mem_append] at hx
    rcases hx with hx | hx
    · split at hx
      · next hcontrol => exact live_of_mem_liveAt (hlive 0 e rfl hcontrol) x hx
      · cases hx
    · refine live_of_mem_liveIn (fun i e he hcontrol => ?_) x hx
      rw [Nat.add_right_comm, Nat.add_assoc]
      exact hlive (i + 1) e he hcontrol

end

theorem live_of_mem_liveSections {position : Nat} {es : List Xml.Element}
    (hes : ∀ i, es[i]? = root.children[position + i]?) :
    ∀ x ∈ liveSections position es, Live root x.1 x.2 := by
  induction es generalizing position with
  | nil =>
    intro x hx
    cases hx
  | cons s rest ih =>
    intro x hx
    rw [liveSections, List.mem_append] at hx
    rcases hx with hx | hx
    · split at hx
      · next hkind =>
        refine live_of_mem_liveIn (fun j e he hcontrol => ?_) x hx
        rw [Nat.zero_add]
        exact .inSection (hes 0).symm hkind he hcontrol
      · cases hx
    · refine ih (fun i => ?_) x hx
      rw [Nat.add_right_comm, Nat.add_assoc]
      exact hes (i + 1)

theorem liveAt_subset_liveIn (route : List Nat) {i : Nat} {e : Xml.Element}
    (hcontrol : isControl e.name = true) {es : List Xml.Element} (he : es[i]? = some e)
    (position : Nat) : liveAt (route ++ [position + i]) e ⊆ liveIn route position es := by
  induction es generalizing i position with
  | nil => cases he
  | cons f rest ih =>
    rw [liveIn]
    cases i with
    | zero =>
      obtain rfl : f = e := Option.some.inj he
      rw [if_pos hcontrol]
      exact List.subset_append_left _ _
    | succ i =>
      have hrest := ih he (position + 1)
      rw [Nat.add_right_comm, Nat.add_assoc] at hrest
      exact List.Subset.trans hrest (List.subset_append_right _ _)

theorem liveIn_subset_liveSections {i : Nat} {s : Xml.Element} (hkind : key s.name = "controls")
    {es : List Xml.Element} (hs : es[i]? = some s) (position : Nat) :
    liveIn [position + i] 0 s.children ⊆ liveSections position es := by
  induction es generalizing i position with
  | nil => cases hs
  | cons r rest ih =>
    rw [liveSections]
    cases i with
    | zero =>
      obtain rfl : r = s := Option.some.inj hs
      rw [if_pos hkind]
      exact List.subset_append_left _ _
    | succ i =>
      have hrest := ih hs (position + 1)
      rw [Nat.add_right_comm, Nat.add_assoc] at hrest
      exact List.Subset.trans hrest (List.subset_append_right _ _)

/-- With a control that counts, all that count in it are listed. -/
theorem Live.liveAt_subset {route : List Nat} {e : Xml.Element} (h : Live root route e) :
    liveAt route e ⊆ liveControls root := by
  induction h with
  | @inSection i j s e atRoot kind child control =>
    have hsection := liveIn_subset_liveSections kind atRoot 0
    have hchild := liveAt_subset_liveIn [i] control child 0
    rw [Nat.zero_add] at hsection hchild
    exact List.Subset.trans hchild hsection
  | @nested route i c e parent typed child control ih =>
    have hchild := liveAt_subset_liveIn route control child 0
    rw [Nat.zero_add] at hchild
    rw [liveAt_eq, if_pos typed] at ih
    exact List.Subset.trans hchild (List.Subset.trans (List.subset_cons_self _ _) ih)

/-- **The live controls of a document**, in its order. -/
theorem inOrder_liveControls (root : Xml.Element) :
    Xml.InOrder (Live root) (liveControls root) where
  sorted := pairwise_liveSections 0 root.children
  mem_iff route e := by
    refine ⟨fun h => live_of_mem_liveSections (fun i => by rw [Nat.zero_add]) _ h, fun h => ?_⟩
    refine h.liveAt_subset ?_
    rw [liveAt_eq]
    exact List.mem_cons_self

end Listed

/-! ## What is read of them -/

/-- The node of a control without the nodes below it. -/
def ownDescriptor (t : Defaults) (e : Xml.Element) : Descriptor :=
  setElements (setAttributes (t.seed (typeOf e) (groupOf e)) e.attributes) e.children

/-- Properties set one after another change nothing but the properties. -/
theorem foldl_set_eq {α : Type} (name : α → String) (value : α → Option String) (xs : List α)
    (d : Descriptor) : xs.foldl (fun d x => d.set (name x) (value x)) d =
      { d with properties := (xs.foldl (fun d x => d.set (name x) (value x)) d).properties } := by
  induction xs generalizing d with
  | nil => cases d; rfl
  | cons x xs ih =>
    rw [List.foldl_cons, ih]
    rfl

theorem setAttributes_eq (d : Descriptor) (attributes : List Xml.Attribute) :
    setAttributes d attributes = { d with properties := (setAttributes d attributes).properties } :=
  foldl_set_eq _ _ _ _

theorem setElements_eq (d : Descriptor) (children : List Xml.Element) :
    setElements d children = { d with properties := (setElements d children).properties } :=
  foldl_set_eq _ _ _ _

theorem ownDescriptor_eq (t : Defaults) (e : Xml.Element) : ownDescriptor t e =
    ⟨typeOf e, (ownDescriptor t e).properties, groupOf e, [], none⟩ := by
  rw [ownDescriptor]
  -- the type and the group of a control are no matter of unfolding
  generalize typeOf e = type
  generalize groupOf e = group
  rw [setElements_eq, setAttributes_eq]
  rfl

theorem children_ownDescriptor (t : Defaults) (e : Xml.Element) :
    (ownDescriptor t e).children = [] := by
  rw [ownDescriptor_eq]

theorem control_eq (file : FilePath) (t : Defaults) (position : Nat) (e : Xml.Element) :
    control file t position e =
      if isTyped e then
        ((controls file t 0 e.children).1,
          some { ownDescriptor t e with children := (controls file t 0 e.children).2 })
      else ([missingType file position e.attributes], none) := by
  obtain ⟨name, attributes, text, children⟩ := e
  rw [control]
  by_cases htyped : isTyped (.mk name attributes text children) = true
  · have htype : (trimmed ((attribute? "type" attributes).getD "")).isEmpty = false := by
      rw [isTyped, Bool.not_eq_true'] at htyped
      exact htyped
    rw [if_pos htyped]
    simp only [htype, Bool.false_eq_true, if_false]
    rfl
  · have htype : (trimmed ((attribute? "type" attributes).getD "")).isEmpty = true := by
      rw [isTyped, Bool.not_eq_true', Bool.not_eq_false] at htyped
      exact htyped
    rw [if_neg htyped]
    simp only [htype, if_true]
    rfl

/-- The entry of a node in the list of the nodes of a forest with their depths. -/
def entryOf (t : Defaults) (x : List Nat × Xml.Element) : Nat × Descriptor :=
  (x.1.length - 2, ownDescriptor t x.2)

/-- The log entry about a control without a type. -/
def warningOf (file : FilePath) (x : List Nat × Xml.Element) : LogEntry :=
  missingType file (x.1.getLastD 0) x.2.attributes

/-- A reading tells of each of some controls what there is to tell: a node if it has a type, and a
warning if not. -/
structure TellsOf (file : FilePath) (t : Defaults) (depth : Nat)
    (live : List (List Nat × Xml.Element)) (result : Log × List Descriptor) : Prop where
  log : result.1 = (live.filter fun x => !isTyped x.2).map (warningOf file)
  nodes : Descriptor.levelsAll depth result.2 =
    (live.filter fun x => isTyped x.2).map (entryOf t)

section Reading

variable {file : FilePath} {t : Defaults}

theorem TellsOf.nil {depth : Nat} : TellsOf file t depth [] ([], []) := ⟨rfl, rfl⟩

theorem TellsOf.append {depth : Nat} {live more : List (List Nat × Xml.Element)}
    {first second : Log × List Descriptor} (hfirst : TellsOf file t depth live first)
    (hsecond : TellsOf file t depth more second) :
    TellsOf file t depth (live ++ more) (first.1 ++ second.1, first.2 ++ second.2) where
  log := by rw [hfirst.log, hsecond.log, List.filter_append, List.map_append]
  nodes := by
    rw [Descriptor.levelsAll_append, hfirst.nodes, hsecond.nodes, List.filter_append,
      List.map_append]

theorem TellsOf.typed {depth : Nat} {route : List Nat} (hroute : route.length = depth + 2)
    {e : Xml.Element} (htyped : isTyped e = true) {live : List (List Nat × Xml.Element)}
    {below : Log × List Descriptor} (hbelow : TellsOf file t (depth + 1) live below) :
    TellsOf file t depth ((route, e) :: live)
      (below.1, [{ ownDescriptor t e with children := below.2 }]) where
  log := by
    rw [hbelow.log, List.filter_cons_of_neg]
    simp [htyped]
  nodes := by
    have hself : ∀ d : Descriptor, d.children = [] → { d with children := [] } = d := by
      rintro ⟨_, _, _, _, _⟩ rfl
      rfl
    have hfilter : ((route, e) :: live).filter (fun x => isTyped x.2) =
        (route, e) :: live.filter fun x => isTyped x.2 := List.filter_cons_of_pos htyped
    rw [hfilter, List.map_cons, ← hbelow.nodes, entryOf, hroute, Nat.add_sub_cancel,
      Descriptor.levelsAll, Descriptor.levels_eq]
    refine (List.append_nil _).trans (congrArg (fun d => (depth, d) :: _) ?_)
    exact hself _ (children_ownDescriptor t e)

theorem TellsOf.untyped {depth : Nat} (route : List Nat) (position : Nat) {e : Xml.Element}
    (htyped : isTyped e = false) : TellsOf file t depth [(route ++ [position], e)]
      ([missingType file position e.attributes], []) where
  log := by
    rw [List.filter_cons_of_pos (by simp [htyped]), List.filter_nil, List.map_singleton, warningOf,
      List.getLastD_concat]
  nodes := by
    rw [List.filter_cons_of_neg (by simp [htyped])]
    rfl

mutual

theorem tellsOf_control {depth : Nat} {route : List Nat} (hroute : route.length = depth + 1)
    (position : Nat) : ∀ e : Xml.Element, TellsOf file t depth (liveAt (route ++ [position]) e)
      ((control file t position e).1, (control file t position e).2.toList)
  | .mk name attributes text children => by
    have hlength : (route ++ [position]).length = depth + 2 := by
      rw [List.length_append, hroute]
      rfl
    have hbelow := tellsOf_controls hlength 0 children
    rw [control_eq, liveAt_eq]
    by_cases htyped : isTyped (.mk name attributes text children) = true
    · rw [if_pos htyped, if_pos htyped]
      exact .typed hlength htyped hbelow
    · rw [if_neg htyped, if_neg htyped]
      exact .untyped route position (Bool.eq_false_iff.2 htyped)

theorem tellsOf_controls {depth : Nat} {route : List Nat} (hroute : route.length = depth + 1)
    (position : Nat) : ∀ es : List Xml.Element,
      TellsOf file t depth (liveIn route position es) (controls file t position es)
  | [] => by
    rw [controls, liveIn]
    exact .nil
  | e :: rest => by
    have hrest := tellsOf_controls hroute (position + 1) rest
    rw [controls, liveIn]
    split
    · exact (tellsOf_control hroute position e).append hrest
    · exact TellsOf.nil.append hrest

end

theorem tellsOf_liveSections (position : Nat) (es : List Xml.Element) :
    TellsOf file t 0 (liveSections position es)
      (let results := (es.filter fun s => key s.name = "controls").map fun s =>
        controls file t 0 s.children
      (results.flatMap (·.1), results.flatMap (·.2))) := by
  induction es generalizing position with
  | nil => exact .nil
  | cons s rest ih =>
    rw [liveSections, List.filter_cons]
    by_cases hkind : key s.name = "controls"
    · rw [if_pos hkind, if_pos (decide_eq_true hkind)]
      exact (tellsOf_controls rfl 0 s.children).append (ih (position + 1))
    · rw [if_neg hkind, if_neg (by simpa using hkind)]
      exact ih (position + 1)

/-- **The forest and the log of a document** tell of its live controls. -/
theorem tellsOf_forest (file : FilePath) (root : Xml.Element) :
    TellsOf file (defaultsOf root) 0 (liveControls root) (forest file root) :=
  tellsOf_liveSections 0 root.children

end Reading

end LayoutTree.XmlFormat
