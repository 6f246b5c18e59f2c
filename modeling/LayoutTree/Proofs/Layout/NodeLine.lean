import LayoutTree.Layout.TextFormat
import LayoutTree.Proofs.Layout.Quoting

/-!
# Lines of nodes

A node as a line: its type and then its properties, a name alone or an assignment, indented by its
depth (`descriptionLine`). If names are names and no property stands for a file (`IsPlainNode`), the
line is taken for a node line whatever stands before it, is cut into the fragments that it was put
together from, and places the node that it was made of (`readLine_descriptionLine`).
-/

namespace LayoutTree

open LayoutTree.Text LayoutTree.Layout

/-- Whether a content names a file with children. -/
def namesChildren (content : String) : Bool :=
  TextFormat.childrenFileEnd.isSuffixOf (lower (stripQuotes (trim content.toList)))

theorem isEmpty_of_isName {s : String} (h : IsName s.toList) : s.isEmpty = false := by
  simpa using h.ne_nil

namespace TextFormat

/-! ## Writing -/

/-- A property as a fragment of a line. -/
def propertyFragment (p : Property) : List Char :=
  match p.value with
  | none => p.name.toList
  | some value => assignment p.name.toList value.toList

/-- What a line says about a node. -/
def description (typeName : String) (ps : List Property) : List Char :=
  typeName.toList ++ (ps.map propertyFragment).flatMap (';' :: ·)

/-- The line of a node, indented by its depth. -/
def descriptionLine (depth : Nat) (typeName : String) (ps : List Property) : List Char :=
  List.replicate depth ' ' ++ description typeName ps

/-- The names of the properties that stand for files. -/
def includeNames : List String := propertiesFileNames ++ childrenFileNames

/-- A node that a line can describe. Values are any texts, but of the characters that end a line only
those that have an escape can occur. -/
structure IsPlainNode (typeName : String) (ps : List Property) : Prop where
  typeName : IsName typeName.toList
  names : ∀ p ∈ ps, IsName p.name.toList
  includes : ∀ p ∈ ps, p.key ∉ includeNames.map folded
  contents : ∀ p ∈ ps, p.key = folded contentName → ∀ content ∈ p.value,
    namesChildren content = false
  breaks : ∀ p ∈ ps, ∀ value ∈ p.value, ∀ c ∈ value.toList, isLineBreak c = true →
    c = '\n' ∨ c = '\r'

/-! ## Kinds of lines -/

theorem notMem_of_isName {s : List Char} (h : IsName s) {m : Char} (hm : m ∈ marks) : m ∉ s :=
  fun hs => ne_of_isNameChar (h.chars m hs) hm rfl

theorem notMem_fold {s : List Char} (h : '=' ∉ s) : '=' ∉ fold s := by
  intro hmem
  obtain ⟨c, hc, heq⟩ := List.mem_flatMap.1 hmem
  exact h (eq_of_mem_foldChar heq ▸ hc)

/-- What stands before the first equals sign of a text is part of what stands before any. -/
theorem prefix_of_append_eq {w t x y : List Char} (h : w ++ '=' :: t = x ++ y) (hx : '=' ∉ x) :
    x <+: w := by
  rcases List.append_eq_append_iff.1 h with ⟨a, rfl, ha⟩ | ⟨c, rfl, -⟩
  · cases a with
    | nil => exact ⟨[], by simp⟩
    | cons d a =>
      obtain rfl : '=' = d := (List.cons.inj ha).1
      exact absurd (List.mem_append_right _ List.mem_cons_self) hx
  · exact ⟨c, rfl⟩

/-- A line whose first equals sign, if any, stands after a semicolon starts with no keyword. -/
theorem isPrefixOf_fold_eq_false {w s tail : List Char} (hw : ';' ∉ w) (hs : '=' ∉ s)
    (htail : tail = [] ∨ ∃ rest, tail = ';' :: rest) :
    (w ++ ['=']).isPrefixOf (fold (s ++ tail)) = false := by
  rw [Bool.eq_false_iff, Ne, List.isPrefixOf_iff_prefix]
  rintro ⟨t, ht⟩
  rw [List.append_assoc, List.singleton_append] at ht
  rcases htail with rfl | ⟨rest, rfl⟩
  · rw [List.append_nil] at ht
    exact notMem_fold hs (ht ▸ List.mem_append_right _ List.mem_cons_self)
  · have hfold : fold (s ++ ';' :: rest) = (fold s ++ [';']) ++ fold rest := by
      rw [fold_append, fold_cons, List.append_assoc]
      rfl
    have hstart := prefix_of_append_eq (ht.trans hfold) (by simpa using notMem_fold hs)
    exact hw (hstart.subset (List.mem_append_right _ List.mem_cons_self))

/-- A line that starts with a name is neither empty nor a comment. -/
theorem not_ignored_of_isName {name : List Char} (h : IsName name) (rest : List Char) :
    ((name ++ rest).isEmpty || (name ++ rest).head? == some '#') = false := by
  obtain ⟨c, name, rfl⟩ := List.exists_cons_of_ne_nil h.ne_nil
  have hne : c ≠ '#' := ne_of_isNameChar (h.chars c List.mem_cons_self) (by decide)
  simp [hne]

theorem classify_description (inDefaults : Bool) {typeName : String} (h : IsName typeName.toList)
    (ps : List Property) :
    Line.classify inDefaults (description typeName ps) = .node (description typeName ps) := by
  have htail : (ps.map propertyFragment).flatMap (';' :: ·) = [] ∨
      ∃ rest, (ps.map propertyFragment).flatMap (';' :: ·) = ';' :: rest := by
    cases ps with
    | nil => exact Or.inl rfl
    | cons p ps => exact Or.inr ⟨_, rfl⟩
  have hname : '=' ∉ typeName.toList := notMem_of_isName h (by decide)
  have hgroup : groupKeyword.isPrefixOf (fold (description typeName ps)) = false :=
    isPrefixOf_fold_eq_false (w := "grupo".toList) (by decide) hname htail
  have hdefaults : defaultsKeyword.isPrefixOf (fold (description typeName ps)) = false :=
    isPrefixOf_fold_eq_false (w := "control".toList) (by decide) hname htail
  have hdefault : (inDefaults && (description typeName ps).contains '=' &&
      !(description typeName ps).contains ';') = false := by
    rcases htail with htail | ⟨rest, htail⟩ <;> rw [description, htail]
    · simp [hname]
    · simp
  have hfirst : ((description typeName ps).isEmpty ||
    (description typeName ps).head? == some '#') = false := not_ignored_of_isName h _
  rw [Line.classify, if_neg (ne_true_of_eq_false hfirst),
    if_neg (ne_true_of_eq_false hgroup), if_neg (ne_true_of_eq_false hdefaults),
    if_neg (ne_true_of_eq_false hdefault)]

/-! ## Trimming and fragments of lines -/

theorem isPiece_propertyFragment {p : Property} (h : IsName p.name.toList) :
    IsPiece (propertyFragment p) := by
  obtain ⟨name, _ | value⟩ := p
  · exact isPiece_of_isName h
  · exact isPiece_assignment h _

theorem isTight_description {typeName : String} {ps : List Property} (h : IsPlainNode typeName ps) :
    IsTight (description typeName ps) := by
  have hnames := h.names
  have hline : ∀ {s : List Char}, IsTight s →
      IsTight (s ++ (ps.map propertyFragment).flatMap (';' :: ·)) := by
    clear h
    induction ps with
    | nil =>
      intro s hs
      rwa [List.map_nil, List.flatMap_nil, List.append_nil]
    | cons p ps ih =>
      intro s hs
      have hp := (isPiece_propertyFragment (hnames p List.mem_cons_self)).tight
      have hrest := ih (fun q hq => hnames q (List.mem_cons_of_mem _ hq)) (hs.append [';'] hp)
      rw [List.append_assoc] at hrest
      exact hrest
  exact hline (isTight_of_isName h.typeName)

theorem splitFragments_description {typeName : String} {ps : List Property}
    (h : IsPlainNode typeName ps) : splitFragments (· == ';') (description typeName ps) =
      typeName.toList :: ps.map propertyFragment := by
  refine splitFragments_cons (isPiece_of_isName h.typeName) fun q hq => ?_
  obtain ⟨p, hp, rfl⟩ := List.mem_map.1 hq
  exact isPiece_propertyFragment (h.names p hp)

theorem takeWhile_replicate_append {depth : Nat} {s : List Char} (h : IsTight s) :
    (List.replicate depth ' ' ++ s).takeWhile isBlank = List.replicate depth ' ' := by
  obtain ⟨c, hc, hblank⟩ := h.head
  obtain ⟨s, rfl⟩ := List.head?_eq_some_iff.1 hc
  induction depth with
  | zero => simp [hblank]
  | succ depth ih =>
    rw [List.replicate_succ, List.cons_append, List.takeWhile_cons_of_pos rfl]
    exact congrArg _ ih

/-- The blanks in front of a line are its indentation. -/
theorem indentation_replicate_append {depth : Nat} {s : List Char} (h : IsTight s) :
    indentation (List.replicate depth ' ' ++ s) = depth := by
  rw [indentation, takeWhile_replicate_append h, List.length_replicate]

theorem trim_replicate_append {depth : Nat} {s : List Char} (h : IsTight s) :
    trim (List.replicate depth ' ' ++ s) = s := by
  have hdrop : trimStart (List.replicate depth ' ' ++ s) = trimStart s := by
    induction depth with
    | zero => rfl
    | succ depth ih => exact ih
  rw [trim, hdrop, ← trim, h.trim_eq]

/-! ## Reading -/

/-- **A property reads back** as it was written, with or without a value. -/
theorem readProperty_propertyFragment {p : Property} (h : IsName p.name.toList) :
    readProperty (propertyFragment p) = p := by
  obtain ⟨name, _ | value⟩ := p
  · simp only [readProperty, propertyFragment, findAssignment_of_isNameChar h.chars,
      trim_of_isNameChar h.chars, String.ofList_toList]
  · simp only [propertyFragment, readProperty_assignment h.chars, String.ofList_toList]

theorem map_readProperty {ps : List Property} (h : ∀ p ∈ ps, IsName p.name.toList) :
    ((ps.map propertyFragment).map readProperty).filter (·.name ≠ "") = ps := by
  have hmap : (ps.map propertyFragment).map readProperty = ps := by
    rw [List.map_map]
    exact (List.map_congr_left fun p hp => readProperty_propertyFragment (h p hp)).trans
      (List.map_id ps)
  rw [hmap, List.filter_eq_self]
  intro p hp
  have hne : p.name ≠ "" := fun heq => (h p hp).ne_nil (by rw [heq]; rfl)
  simpa using hne

section Node

variable {typeName : String} {ps : List Property} (h : IsPlainNode typeName ps)
include h

/-- A plain node has no properties that stand for files. -/
theorem take_of_isPlainNode (names : List String) (hnames : names ⊆ includeNames)
    (group : Option String) (children : List Descriptor) (source : Option String) :
    Descriptor.take ⟨typeName, ps, group, children, source⟩ names =
      ([], ⟨typeName, ps, group, children, source⟩) := by
  have hkey : ∀ p ∈ ps, (names.map folded).contains p.key = false := by
    intro p hp
    rw [List.contains_eq_mem, decide_eq_false_iff_not]
    exact fun hmem => h.includes p hp (List.map_subset _ hnames hmem)
  rw [Descriptor.take, List.filter_eq_nil_iff.2 fun p hp => ne_true_of_eq_false (hkey p hp),
    List.filter_eq_self.2 fun p hp => congrArg not (hkey p hp)]

/-- The content of a plain node names no file with children. -/
theorem namesChildren_get_content (group : Option String) (children : List Descriptor)
    (source : Option String) : namesChildren
      ((Descriptor.get ⟨typeName, ps, group, children, source⟩ contentName).getD "") = false := by
  rw [Descriptor.get, valueOf]
  cases hfind : ps.reverse.find? fun p => p.key = folded contentName with
  | none => decide
  | some p =>
    have hkey : p.key = folded contentName := by simpa using List.find?_some hfind
    have hmem := List.mem_reverse.1 (List.mem_of_find?_eq_some hfind)
    rw [Option.bind_some]
    cases hvalue : p.value with
    | none => decide
    | some content => exact h.contents p hmem hkey content hvalue

variable (env : Surroundings) (file : FilePath) (state : Reading)

theorem nodeOf_description : nodeOf file state (typeName.toList :: ps.map propertyFragment) =
    .ok ⟨typeName, ps, state.group, [], some file.text⟩ := by
  have hquote : '"' ∉ typeName.toList := notMem_of_isName h.typeName (by decide)
  simp only [nodeOf, findAssignment_of_isNameChar h.typeName.chars, Option.isNone_none, if_true,
    stripQuotes_of_notMem hquote, String.ofList_toList, isEmpty_of_isName h.typeName,
    Bool.false_eq_true, if_false, map_readProperty h.names]

theorem readNode_description : readNode env file state (description typeName ps) =
    ([], .ok (state.defaults.apply ⟨typeName, ps, state.group, [], some file.text⟩)) := by
  have hproperties := take_of_isPlainNode h propertiesFileNames (List.subset_append_left _ _)
    state.group [] (some file.text)
  have hchildren := take_of_isPlainNode h childrenFileNames (List.subset_append_right _ _)
    state.group [] (some file.text)
  have hincludes : takeIncludes ⟨typeName, ps, state.group, [], some file.text⟩ =
      ([], ⟨typeName, ps, state.group, [], some file.text⟩) := by
    have hcontent := namesChildren_get_content h state.group [] (some file.text)
    rw [namesChildren] at hcontent
    rw [takeIncludes, hchildren]
    exact if_neg (ne_true_of_eq_false hcontent)
  simp only [readNode, splitFragments_description h, nodeOf_description h, hproperties,
    loadProperties, hincludes, loadChildren, List.append_nil]

/-- **A node line** places its node with the defaults of its type where its depth says. -/
theorem readLine_descriptionLine (hskipped : state.skippedAt = none) (depth : Nat) :
    readLine env file state (descriptionLine depth typeName ps) =
      ⟨{ state with
          outline := state.outline.attach depth (state.defaults.apply
            ⟨typeName, ps, state.group, [], some file.text⟩) }, [], none⟩ := by
  have htight := isTight_description h
  have htrim : trim (descriptionLine depth typeName ps) = description typeName ps :=
    trim_replicate_append htight
  have hindent : indentation (descriptionLine depth typeName ps) = depth :=
    indentation_replicate_append htight
  simp only [readLine, htrim, classify_description _ h.typeName, hindent, readNodeLine, hskipped,
    Option.any_none, Bool.false_eq_true, if_false, readNode_description h env file state]

end Node

/-! ## Lines without line breaks -/

theorem no_break_of_isName {s : List Char} (h : IsName s) : ∀ c ∈ s, isLineBreak c = false := by
  intro c hc
  have hblank := isBlank_of_isNameChar (h.chars c hc)
  exact Bool.eq_false_iff.2 fun hbreak =>
    Bool.false_ne_true (hblank.symm.trans (isBlank_of_isLineBreak hbreak))

theorem no_break_escapeChar {c : Char} (h : isLineBreak c = true → c = '\n' ∨ c = '\r') :
    ∀ d ∈ escapeChar c, isLineBreak d = false := by
  have hescaped : ∀ e, isLineBreak e = false → ∀ d ∈ ['\\', e], isLineBreak d = false := by
    intro e he d hd
    simp only [List.mem_cons, List.not_mem_nil, or_false] at hd
    rcases hd with rfl | rfl
    · decide
    · exact he
  rw [escapeChar]
  split
  · exact hescaped 'n' (by decide)
  · next hn =>
    split
    · exact hescaped 'r' (by decide)
    · next hr =>
      have hc : isLineBreak c = false := Bool.eq_false_iff.2 fun hbreak => (h hbreak).elim hn hr
      split
      · exact hescaped c hc
      · intro d hd
        exact List.mem_singleton.1 hd ▸ hc

theorem no_break_assignment {name value : List Char} (h : IsName name)
    (hvalue : ∀ c ∈ value, isLineBreak c = true → c = '\n' ∨ c = '\r') :
    ∀ c ∈ assignment name value, isLineBreak c = false := by
  intro c hc
  simp only [assignment, enclosed, escape, List.mem_append, List.mem_cons, List.mem_flatMap,
    List.not_mem_nil, or_false] at hc
  rcases hc with hc | rfl | rfl | ⟨d, hd, hc⟩ | rfl
  · exact no_break_of_isName h c hc
  · decide
  · decide
  · exact no_break_escapeChar (hvalue d hd) c hc
  · decide

theorem no_break_descriptionLine {typeName : String} {ps : List Property}
    (h : IsPlainNode typeName ps) (depth : Nat) :
    ∀ c ∈ descriptionLine depth typeName ps, isLineBreak c = false := by
  intro c hc
  simp only [descriptionLine, description, List.mem_append, List.mem_flatMap, List.mem_map,
    List.mem_cons] at hc
  rcases hc with hc | hc | ⟨_, ⟨p, hp, rfl⟩, rfl | hc⟩
  · rw [(List.mem_replicate.1 hc).2]
    decide
  · exact no_break_of_isName h.typeName c hc
  · decide
  · rw [propertyFragment] at hc
    split at hc
    · exact no_break_of_isName (h.names p hp) c hc
    · next value hvalue => exact no_break_assignment (h.names p hp) (h.breaks p hp value hvalue) c hc

end TextFormat

end LayoutTree
