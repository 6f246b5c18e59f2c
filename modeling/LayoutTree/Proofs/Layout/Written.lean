import LayoutTree.Proofs.Layout.Plan

/-!
# Written lines

The lines that the text of a plan is made of, and what the reader takes each for: a line with a
group (`readLine_groupLine`), a line with a type whose defaults follow (`readLine_defaultsLine`), a
default (`readLine_defaultLine`) and a node (`readLine_nodeLine`). The kinds are told apart by what
stands before the first equals sign; folding the case of a line makes no further ones.
-/

namespace LayoutTree.TextFormat

open LayoutTree.Text LayoutTree.Layout

/-! ## Lines -/

/-- The line that names the group of the nodes after it. Without a name they have none. -/
def groupLine (group : Option String) : List Char :=
  "Grupo".toList ++ '=' :: (group.getD "").toList

/-- The line before the defaults of a type. -/
def defaultsLine (typeName : String) : List Char :=
  "Control".toList ++ '=' :: typeName.toList

/-- The line of a default. -/
def defaultLine (p : String × String) : List Char :=
  assignment p.1.toList p.2.toList

/-- What a line says about a node. -/
def nodeText (typeName : String) (ps : List (String × String)) : List Char :=
  typeName.toList ++ (ps.map defaultLine).flatMap (';' :: ·)

/-- The line of a node, indented by its depth. -/
def nodeLine (depth : Nat) (typeName : String) (ps : List (String × String)) : List Char :=
  List.replicate depth ' ' ++ nodeText typeName ps

/-! ## Kinds of lines -/

/-- A line starts with a keyword if that is what stands before its first equals sign. -/
theorem isPrefixOf_fold_eq {w s : List Char} (hw : '=' ∉ w) (hs : '=' ∉ s) (rest : List Char) :
    (w ++ ['=']).isPrefixOf (fold (s ++ '=' :: rest)) = decide (fold s = w) := by
  have hfold : fold (s ++ '=' :: rest) = fold s ++ '=' :: fold rest := by
    rw [fold_append, fold_cons]
    rfl
  rw [hfold, Bool.eq_iff_iff, List.isPrefixOf_iff_prefix, decide_eq_true_iff]
  constructor
  · rintro ⟨t, ht⟩
    rw [List.append_assoc, List.singleton_append] at ht
    exact (prefix_of_append_eq ht (notMem_fold hs)).eq_of_length_le
      (prefix_of_append_eq ht.symm hw).length_le
  · rintro rfl
    exact ⟨fold rest, by simp⟩

theorem isName_grupo : IsName "Grupo".toList := by decide

theorem isName_control : IsName "Control".toList := by decide

theorem keywordValue_append {keyword : List Char} {first name : List Char}
    (hlength : keyword.length = first.length) (h : ∀ c ∈ name, isNameChar c = true) :
    keywordValue keyword (first ++ name) = name := by
  have hquote : '"' ∉ name := fun hs => ne_of_isNameChar (h _ hs) (by decide) rfl
  rw [keywordValue, hlength, List.drop_left, trim_of_isNameChar h, stripQuotes_of_notMem hquote]

theorem classify_groupLine (inDefaults : Bool) {name : List Char}
    (h : ∀ c ∈ name, isNameChar c = true) :
    Line.classify inDefaults ("Grupo".toList ++ '=' :: name) = .group name := by
  have hgroup : groupKeyword.isPrefixOf (fold ("Grupo".toList ++ '=' :: name)) = true := by
    rw [show groupKeyword = "grupo".toList ++ ['='] from rfl,
      isPrefixOf_fold_eq (by decide) (by decide)]
    decide
  rw [Line.classify, if_neg (ne_true_of_eq_false (not_ignored_of_isName isName_grupo _)),
    if_pos hgroup]
  exact congrArg Line.group (@keywordValue_append groupKeyword "Grupo=".toList name rfl h)

theorem classify_defaultsLine (inDefaults : Bool) {name : List Char}
    (h : ∀ c ∈ name, isNameChar c = true) :
    Line.classify inDefaults ("Control".toList ++ '=' :: name) = .defaultsOf name := by
  have hgroup : groupKeyword.isPrefixOf (fold ("Control".toList ++ '=' :: name)) = false := by
    rw [show groupKeyword = "grupo".toList ++ ['='] from rfl,
      isPrefixOf_fold_eq (by decide) (by decide)]
    decide
  have hdefaults : defaultsKeyword.isPrefixOf (fold ("Control".toList ++ '=' :: name)) = true := by
    rw [show defaultsKeyword = "control".toList ++ ['='] from rfl,
      isPrefixOf_fold_eq (by decide) (by decide)]
    decide
  rw [Line.classify, if_neg (ne_true_of_eq_false (not_ignored_of_isName isName_control _)),
    if_neg (ne_true_of_eq_false hgroup), if_pos hdefaults]
  exact congrArg Line.defaultsOf (@keywordValue_append defaultsKeyword "Control=".toList name rfl h)

theorem fold_ne_of_unreserved {p : String × String} (h : IsPlainProperty p) {r : String}
    (hr : r ∈ reservedNames) : fold p.1.toList ≠ fold r.toList :=
  fun heq => h.unreserved r hr (congrArg String.ofList heq)

theorem notMem_semicolon_enclosed {s : List Char} (h : ';' ∉ s) : ';' ∉ enclosed s := by
  have hchar : ∀ c, c ≠ ';' → ';' ∉ escapeChar c := by
    intro c hc
    rw [escapeChar]
    split
    · decide
    · split
      · decide
      · split
        · simp [hc.symm]
        · simp [hc.symm]
  simp only [enclosed, List.mem_cons, List.mem_append, escape, List.mem_flatMap]
  rintro (hq | ⟨c, hc, hmem⟩ | hq | hq)
  · cases hq
  · exact hchar c (fun heq => h (heq ▸ hc)) hmem
  · cases hq
  · cases hq

theorem classify_defaultLine {p : String × String} (h : IsPlainProperty p)
    (hvalue : ';' ∉ p.2.toList) :
    Line.classify true (defaultLine p) = .default ⟨p.1, some p.2⟩ := by
  have hname : '=' ∉ p.1.toList := notMem_of_isName h.name (by decide)
  have hgroup : groupKeyword.isPrefixOf (fold (defaultLine p)) = false := by
    rw [show groupKeyword = "grupo".toList ++ ['='] from rfl, defaultLine, assignment,
      isPrefixOf_fold_eq (by decide) hname, decide_eq_false_iff_not]
    exact fold_ne_of_unreserved h (r := "Grupo") (by decide)
  have hdefaults : defaultsKeyword.isPrefixOf (fold (defaultLine p)) = false := by
    rw [show defaultsKeyword = "control".toList ++ ['='] from rfl, defaultLine, assignment,
      isPrefixOf_fold_eq (by decide) hname, decide_eq_false_iff_not]
    exact fold_ne_of_unreserved h (r := "Control") (by decide)
  have hsemicolon : ';' ∉ defaultLine p := by
    rw [defaultLine, assignment, List.mem_append, List.mem_cons]
    rintro (hp | hp | hp)
    · exact notMem_of_isName h.name (by decide) hp
    · cases hp
    · exact notMem_semicolon_enclosed hvalue hp
  have hequals : '=' ∈ defaultLine p := List.mem_append_right _ List.mem_cons_self
  have hfirst : ((defaultLine p).isEmpty || (defaultLine p).head? == some '#') = false :=
    not_ignored_of_isName h.name _
  rw [Line.classify, if_neg (ne_true_of_eq_false hfirst),
    if_neg (ne_true_of_eq_false hgroup), if_neg (ne_true_of_eq_false hdefaults),
    if_pos (by simp [hequals, hsemicolon]), defaultLine, readProperty_assignment h.name.chars,
    String.ofList_toList, String.ofList_toList]

/-! ## What lines do -/

variable (env : Surroundings) (file : FilePath) (state : Reading)

theorem readLine_groupLine (hnormalize : ∀ s, env.normalize s = .ok s) {group : Option String}
    (h : ∀ g ∈ group, IsName g.toList) :
    readLine env file state (groupLine group) = ⟨{ state with group }, [], none⟩ := by
  have hchars : ∀ c ∈ (group.getD "").toList, isNameChar c = true := by
    cases group with
    | none => nofun
    | some g => exact (h g rfl).chars
  have htight : IsTight (groupLine group) := by
    have hkeyword : IsTight "Grupo".toList := isTight_of_isName isName_grupo
    cases group with
    | none => exact hkeyword.append [] (t := ['=']) ⟨⟨'=', rfl, rfl⟩, ⟨'=', rfl, rfl⟩⟩
    | some g => exact hkeyword.append ['='] (isTight_of_isName (h g rfl))
  have hclass : Line.classify state.defaultsType.isSome (groupLine group) =
    .group (group.getD "").toList := classify_groupLine _ hchars
  simp only [readLine, htight.trim_eq, hclass, hnormalize, String.ofList_toList]
  cases group with
  | none => rfl
  | some g =>
    simp only [Option.getD_some, isEmpty_of_isName (h g rfl), Bool.false_eq_true, if_false]

theorem readLine_defaultsLine {typeName : String} (h : IsName typeName.toList) :
    readLine env file state (defaultsLine typeName) =
      ⟨{ state with
          defaultsType := some typeName
          defaults := state.defaults.declare typeName }, [], none⟩ := by
  have hkeyword : IsTight "Control".toList := isTight_of_isName isName_control
  have htight : IsTight (defaultsLine typeName) := hkeyword.append ['='] (isTight_of_isName h)
  have hclass : Line.classify state.defaultsType.isSome (defaultsLine typeName) =
    .defaultsOf typeName.toList := classify_defaultsLine _ h.chars
  have hne : typeName.toList.isEmpty = false := by simpa using h.ne_nil
  simp only [readLine, htight.trim_eq, hclass, hne, Bool.false_eq_true, if_false,
    String.ofList_toList]

theorem readLine_defaultLine {typeName : String} (htype : state.defaultsType = some typeName)
    {p : String × String} (h : IsPlainProperty p) (hvalue : ';' ∉ p.2.toList) :
    readLine env file state (defaultLine p) =
      ⟨{ state with defaults := state.defaults.add typeName p.1 (some p.2) }, [], none⟩ := by
  have htrim : trim (defaultLine p) = defaultLine p :=
    (isTight_assignment h.name p.2.toList).trim_eq
  rw [readLine, htrim, htype, Option.isSome_some, classify_defaultLine h hvalue]

/-! ## What node lines do -/

variable {typeName : String} {ps : List (String × String)}

theorem nodeText_eq : nodeText typeName ps = description typeName (asProperties ps) := by
  rw [nodeText, description, asProperties, List.map_map]
  rfl

theorem nodeLine_eq (depth : Nat) :
    nodeLine depth typeName ps = descriptionLine depth typeName (asProperties ps) := by
  rw [nodeLine, nodeText_eq, descriptionLine]

theorem isPlainNode_asProperties (h : IsName typeName.toList) (hps : ∀ p ∈ ps, IsPlainProperty p)
    (hcontents : ∀ q ∈ ps, folded q.1 = folded contentName → namesChildren q.2 = false) :
    IsPlainNode typeName (asProperties ps) := by
  have hall : ∀ {P : Property → Prop}, (∀ p ∈ ps, P ⟨p.1, some p.2⟩) →
      ∀ entry ∈ asProperties ps, P entry := by
    intro P hP entry hentry
    obtain ⟨p, hp, rfl⟩ := List.mem_map.1 hentry
    exact hP p hp
  refine ⟨h, hall fun p hp => (hps p hp).name, hall fun p hp hmem => ?_,
    hall fun p hp hkey content hvalue => ?_, hall fun p hp value hvalue => ?_⟩
  · obtain ⟨r, hr, heq⟩ := List.mem_map.1 hmem
    exact (hps p hp).unreserved r (List.mem_append_left _ hr) heq.symm
  · obtain rfl := Option.some.inj hvalue
    exact hcontents p hp hkey
  · obtain rfl := Option.some.inj hvalue
    exact (hps p hp).breaks

/-- **A node line** places the node with the defaults of its type where its depth says. -/
theorem readLine_nodeLine (hskipped : state.skippedAt = none) (depth : Nat)
    (h : IsName typeName.toList) (hps : ∀ p ∈ ps, IsPlainProperty p)
    (hcontents : ∀ q ∈ ps, folded q.1 = folded contentName → namesChildren q.2 = false) :
    readLine env file state (nodeLine depth typeName ps) =
      ⟨{ state with
          outline := state.outline.attach depth (state.defaults.apply
            ⟨typeName, asProperties ps, state.group, [], some file.text⟩) }, [], none⟩ := by
  rw [nodeLine_eq]
  exact readLine_descriptionLine (isPlainNode_asProperties h hps hcontents) env file state hskipped
    depth

end LayoutTree.TextFormat
