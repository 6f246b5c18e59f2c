import LayoutTree.Proofs.Layout.Placing
import LayoutTree.Proofs.Layout.Recovery
import LayoutTree.Proofs.Layout.Written

/-!
# Forms of a plan

A plan can be written as text, as structured data and as XML elements, and each form is read as
nodes of the same shape (`forms_agree`). Structured data and XML elements give the same descriptors to
begin with; the text is read line by line, and its nodes get the defaults that they lack.

In the text the nodes stand before those below them, each indented by its depth; placing them one by
one gives the forest back (`Outline.forest_placeAll`).
-/

namespace LayoutTree

open LayoutTree.Text LayoutTree.Layout

/-! ## The text of a plan -/

namespace Part

mutual

/-- The lines of a node and of the nodes below it. -/
def lines (depth : Nat) : Part → List (List Char)
  | mk typeName group properties parts =>
    TextFormat.groupLine group :: TextFormat.nodeLine depth typeName properties ::
      linesAll (depth + 1) parts

/-- The lines of several nodes at a depth. -/
def linesAll (depth : Nat) : List Part → List (List Char)
  | [] => []
  | p :: ps => lines depth p ++ linesAll depth ps

end

mutual

/-- The descriptor of a node that gets the defaults that it lacks. -/
def completed (t : Defaults) (file : FilePath) : Part → Descriptor
  | mk typeName group properties parts =>
    { t.apply ⟨typeName, asProperties properties, group, [], some file.text⟩ with
      children := completedAll t file parts }

/-- The descriptors of several nodes. -/
def completedAll (t : Defaults) (file : FilePath) : List Part → List Descriptor
  | [] => []
  | p :: ps => completed t file p :: completedAll t file ps

end

mutual

/-- Descriptors that get the defaults that they lack have the shape of the node. -/
theorem shape_completed {t : Defaults} {defaults : String → List Property} (h : t.Holds defaults)
    (file : FilePath) : ∀ p : Part, (completed t file p).shape = shape defaults p
  | mk typeName group properties parts => by
    have hvalues : effective (missingFrom ((asProperties properties).map Property.key)
        (t.entries typeName) ++ asProperties properties) =
        effective (defaults typeName ++ asProperties properties) := by
      funext key
      rw [effective_missingFrom_append (h.nodup typeName), effective_append, effective_append,
        h.values]
    rw [completed, Descriptor.shape, shape, ← shapes_completedAll h file parts, ← hvalues]
    rfl

theorem shapes_completedAll {t : Defaults} {defaults : String → List Property}
    (h : t.Holds defaults) (file : FilePath) :
    ∀ ps : List Part, Descriptor.shapes (completedAll t file ps) = shapes defaults ps
  | [] => rfl
  | p :: ps => by
    rw [completedAll, Descriptor.shapes, shapes, shape_completed h file p,
      shapes_completedAll h file ps]

end

end Part

namespace Plan

/-- The lines of a plan: the defaults of each type, and then the nodes. -/
def lines (l : Plan) : List (List Char) :=
  (l.defaults.flatMap fun d => TextFormat.defaultsLine d.1 :: d.2.map TextFormat.defaultLine) ++
    Part.linesAll 0 l.parts

/-- A plan as text. -/
def text (l : Plan) : List Char :=
  l.lines.flatMap fun line => line ++ ['\n']

end Plan

/-! ## Reading the text -/

namespace TextFormat

variable (env : Surroundings) (file : FilePath)

theorem after_defaultLines {typeName : String} {ps : List (String × String)}
    (h : ∀ p ∈ ps, IsPlainProperty p ∧ ';' ∉ p.2.toList) (state : Reading)
    (htype : state.defaultsType = some typeName) :
    after env file state (ps.map defaultLine) = { state with
      defaults := ps.foldl (fun t p => t.add typeName p.1 (some p.2)) state.defaults } := by
  induction ps generalizing state with
  | nil => rfl
  | cons p ps ih =>
    obtain ⟨hp, hvalue⟩ := h p List.mem_cons_self
    rw [List.map_cons, after, List.foldl_cons, readLine_defaultLine env file state htype hp hvalue]
    exact ih (fun q hq => h q (List.mem_cons_of_mem _ hq)) _ htype

/-- The lines with the defaults of a type declare them. -/
theorem after_block {d : String × List (String × String)} (hname : IsName d.1.toList)
    (h : ∀ p ∈ d.2, IsPlainProperty p ∧ ';' ∉ p.2.toList) (state : Reading) :
    after env file state (defaultsLine d.1 :: d.2.map defaultLine) =
      { state with defaultsType := some d.1, defaults := Plan.declareBlock state.defaults d } := by
  rw [after, List.foldl_cons, readLine_defaultsLine env file state hname]
  exact after_defaultLines env file h _ rfl

/-- The lines with the defaults of all types declare them. -/
theorem after_blocks {ds : List (String × List (String × String))}
    (hnames : ∀ d ∈ ds, IsName d.1.toList)
    (h : ∀ d ∈ ds, ∀ p ∈ d.2, IsPlainProperty p ∧ ';' ∉ p.2.toList) (state : Reading) :
    ∃ defaultsType, after env file state
      (ds.flatMap fun d => defaultsLine d.1 :: d.2.map defaultLine) =
        { state with defaultsType, defaults := ds.foldl Plan.declareBlock state.defaults } := by
  induction ds generalizing state with
  | nil => exact ⟨state.defaultsType, rfl⟩
  | cons d ds ih =>
    obtain ⟨defaultsType, hrest⟩ := ih (fun e he => hnames e (List.mem_cons_of_mem _ he))
      (fun e he => h e (List.mem_cons_of_mem _ he))
      { state with defaultsType := some d.1, defaults := Plan.declareBlock state.defaults d }
    refine ⟨defaultsType, ?_⟩
    rw [List.flatMap_cons, after_append,
      after_block env file (hnames d List.mem_cons_self) (h d List.mem_cons_self), hrest]
    rfl

mutual

/-- **The lines of a node** place it with all below it. -/
theorem after_lines (hnormalize : ∀ s, env.normalize s = .ok s) : ∀ (p : Part) (depth : Nat)
    (state : Reading), (∀ q ∈ p.walk, q.IsPlain) → state.skippedAt = none →
      ∃ group, after env file state (p.lines depth) = { state with
        group, outline := state.outline.place depth (p.completed state.defaults file) }
  | .mk typeName group properties parts, depth, state, h, hskipped => by
    have hself : (Part.mk typeName group properties parts).IsPlain := h _ (Part.mem_walk_self _)
    let d : Descriptor :=
      state.defaults.apply ⟨typeName, asProperties properties, group, [], some file.text⟩
    obtain ⟨last, hbelow⟩ := after_linesAll hnormalize parts (depth + 1)
      { state with group, outline := state.outline.attach depth d }
      (fun q hq => h q (List.mem_cons_of_mem _ hq)) hskipped
    have hgroup : readLine env file state (groupLine group) = ⟨{ state with group }, [], none⟩ :=
      readLine_groupLine env file state hnormalize hself.group
    have hnode : readLine env file { state with group } (nodeLine depth typeName properties) =
        ⟨{ state with group, outline := state.outline.attach depth d }, [], none⟩ :=
      readLine_nodeLine env file { state with group } hskipped depth hself.typeName hself.properties
        hself.contents
    have hfirst : after env file state ((Part.mk typeName group properties parts).lines depth) =
        after env file { state with group, outline := state.outline.attach depth d }
          (Part.linesAll (depth + 1) parts) := by
      simp only [Part.lines, after, List.foldl_cons, hgroup, hnode]
    refine ⟨last, ?_⟩
    rw [hfirst, hbelow, Part.completed, Outline.place]
    rfl

/-- **The lines of several nodes** place them with all below them. -/
theorem after_linesAll (hnormalize : ∀ s, env.normalize s = .ok s) : ∀ (ps : List Part)
    (depth : Nat) (state : Reading), (∀ q ∈ Part.walkAll ps, q.IsPlain) → state.skippedAt = none →
      ∃ group, after env file state (Part.linesAll depth ps) = { state with
        group, outline := state.outline.placeAll depth (Part.completedAll state.defaults file ps) }
  | [], depth, state, _, _ => ⟨state.group, by
      rw [Part.linesAll, Part.completedAll, Outline.placeAll]
      rfl⟩
  | p :: ps, depth, state, h, hskipped => by
    obtain ⟨group, hp⟩ := after_lines hnormalize p depth state
      (fun q hq => h q (List.mem_append_left _ hq)) hskipped
    obtain ⟨last, hps⟩ := after_linesAll hnormalize ps depth
      { state with group, outline := state.outline.place depth (p.completed state.defaults file) }
      (fun q hq => h q (List.mem_append_right _ hq)) hskipped
    refine ⟨last, ?_⟩
    rw [Part.linesAll, after_append, hp, hps, Part.completedAll, Outline.placeAll]

end

/-! ## Lines without line breaks -/

theorem no_break_keyword {keyword name : List Char}
    (hkeyword : ∀ c ∈ keyword, isLineBreak c = false) (hname : ∀ c ∈ name, isLineBreak c = false) :
    ∀ c ∈ keyword ++ '=' :: name, isLineBreak c = false := by
  intro c hc
  rcases List.mem_append.1 hc with hc | hc
  · exact hkeyword c hc
  · rcases List.mem_cons.1 hc with rfl | hc
    · decide
    · exact hname c hc

end TextFormat

mutual

theorem Part.no_break_lines : ∀ (p : Part) (depth : Nat), (∀ q ∈ p.walk, q.IsPlain) →
    ∀ line ∈ p.lines depth, ∀ c ∈ line, isLineBreak c = false
  | .mk typeName group properties parts, depth, h, line, hline => by
    have hself : (Part.mk typeName group properties parts).IsPlain := h _ (Part.mem_walk_self _)
    rw [Part.lines, List.mem_cons, List.mem_cons] at hline
    rcases hline with rfl | rfl | hline
    · refine TextFormat.no_break_keyword
        (TextFormat.no_break_of_isName TextFormat.isName_grupo) ?_
      cases group with
      | none => nofun
      | some g => exact TextFormat.no_break_of_isName (hself.group g rfl)
    · rw [TextFormat.nodeLine_eq]
      exact TextFormat.no_break_descriptionLine (TextFormat.isPlainNode_asProperties hself.typeName
        hself.properties hself.contents) depth
    · exact Part.no_break_linesAll parts (depth + 1) (fun q hq => h q (List.mem_cons_of_mem _ hq))
        line hline

theorem Part.no_break_linesAll : ∀ (ps : List Part) (depth : Nat),
    (∀ q ∈ Part.walkAll ps, q.IsPlain) →
      ∀ line ∈ Part.linesAll depth ps, ∀ c ∈ line, isLineBreak c = false
  | [], _, _, line, hline => by
    rw [Part.linesAll] at hline
    cases hline
  | p :: ps, depth, h, line, hline => by
    rw [Part.linesAll, List.mem_append] at hline
    rcases hline with hline | hline
    · exact Part.no_break_lines p depth (fun q hq => h q (List.mem_append_left _ hq)) line hline
    · exact Part.no_break_linesAll ps depth (fun q hq => h q (List.mem_append_right _ hq)) line
        hline

end

namespace Plan

variable {l : Plan}

theorem no_break_lines (h : l.IsPlain) : ∀ line ∈ l.lines, ∀ c ∈ line, isLineBreak c = false := by
  intro line hline
  rw [lines, List.mem_append, List.mem_flatMap] at hline
  rcases hline with ⟨d, hd, hline⟩ | hline
  · rcases List.mem_cons.1 hline with rfl | hline
    · exact TextFormat.no_break_keyword (TextFormat.no_break_of_isName TextFormat.isName_control)
        (TextFormat.no_break_of_isName (h.types d hd))
    · obtain ⟨p, hp, rfl⟩ := List.mem_map.1 hline
      exact TextFormat.no_break_assignment (h.defaults d hd p hp).1.name
        (h.defaults d hd p hp).1.breaks
  · exact Part.no_break_linesAll l.parts 0 h.parts line hline

/-- The text of a plan breaks into the lines that it was made of. -/
theorem lines_text (h : l.IsPlain) : Text.lines l.text = l.lines :=
  lines_unlines (no_break_lines h)

/-- **The text of a plan** is read as its nodes with the defaults that they lack. -/
theorem readFile_text (h : l.IsPlain) (store : FileStore) (active : List Location)
    (file : FilePath) :
    (TextFormat.readFile store .ok active file l.text).2 =
      Part.completedAll l.table file l.parts := by
  obtain ⟨children, hread⟩ : ∃ children, (TextFormat.readFile store .ok active file l.text).2 =
      (TextFormat.readLines ⟨store, .ok, children⟩ file 0 .start
        (Text.lines l.text)).1.outline.forest := by
    rw [TextFormat.readFile]
    exact ⟨_, rfl⟩
  let env : TextFormat.Surroundings := ⟨store, .ok, children⟩
  obtain ⟨defaultsType, hdefaults⟩ := TextFormat.after_blocks env file h.types h.defaults .start
  obtain ⟨group, hparts⟩ := TextFormat.after_linesAll env file (fun _ => rfl) l.parts 0
    { TextFormat.Reading.start with defaultsType, defaults := l.table } h.parts rfl
  have hafter : (TextFormat.after env file .start l.lines).outline =
      Outline.placeAll .empty 0 (Part.completedAll l.table file l.parts) := by
    rw [lines, TextFormat.after_append, hdefaults]
    exact congrArg TextFormat.Reading.outline hparts
  rw [hread, TextFormat.readLines_fst, lines_text h]
  exact (congrArg Outline.forest hafter).trans (Outline.forest_placeAll _)

/-- **The forms of a plan say the same.** The text, the structured data and the XML element of a
plan are read as forests of the shape of the plan. -/
theorem forms_agree (h : l.IsPlain) (store : FileStore) (active : List Location)
    (textFile dataFile xmlFile : FilePath) :
    Descriptor.shapes (TextFormat.readFile store .ok active textFile l.text).2 = l.shapes ∧
      (∃ forest, Document.ofData dataFile l.data = .ok forest ∧
        Descriptor.shapes forest = l.shapes) ∧
      Descriptor.shapes (XmlFormat.forest xmlFile l.element).2 = l.shapes := by
  refine ⟨?_, ⟨l.document.forest, ofData_data h dataFile, ?_⟩, ?_⟩
  · rw [readFile_text h]
    exact Part.shapes_completedAll l.holds_table textFile l.parts
  · rw [forest_document h, shapes_seeded]
  · rw [forest_element h, shapes_seeded]

/-- A panel with a group and two buttons, one of which has a width of its own. A title is quoted and
takes two lines. -/
def greetingPlan : Plan where
  defaults := [("Button", [("Width", "120"), ("ToolTip", "say \"hello\"")]), ("Label", [])]
  parts := [
    .mk "StackPanel" (some "Main")
      [("Orientation", "Horizontal"), ("Title", "Dear \"you\";\nhello")] [
      .mk "button" none [("Content", "Ok"), ("width", "80")] [],
      .mk "Button" (some "Other") [("Content", "C:\\")] [.mk "Label" none [] []]]]

theorem forms_agree_greetingPlan :
    Descriptor.shapes
        (TextFormat.readFile ⟨[], []⟩ .ok [] (.ofString "a.txt") greetingPlan.text).2 =
        greetingPlan.shapes ∧
      (∃ forest, Document.ofData (.ofString "a.json") greetingPlan.data = .ok forest ∧
        Descriptor.shapes forest = greetingPlan.shapes) ∧
      Descriptor.shapes (XmlFormat.forest (.ofString "a.xml") greetingPlan.element).2 =
        greetingPlan.shapes :=
  forms_agree (by decide +kernel) _ _ _ _ _

end Plan

end LayoutTree
