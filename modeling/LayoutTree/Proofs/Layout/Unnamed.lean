import LayoutTree.Proofs.Layout.Comments
import LayoutTree.Proofs.Layout.Leftover
import LayoutTree.Proofs.Text.Trim

/-!
# Properties without a name

A node line gives a property only where a fragment names one, and a file with properties only where
a line does. A line in a block of defaults that starts with an equals sign declares a default whose
name is empty, and nothing hides it: no property that is given has the empty key. So it stands on
every node of its type after it.

* `fullyNamed_iff`: the properties of a forest are named exactly if no line that places a node
  comes after such a line for the type of its node. Every node has a type.
-/

namespace LayoutTree.Text

theorem foldChar_ne_nil (c : Char) : foldChar c ≠ [] := by
  have hexpansions : ∀ e ∈ foldMap.expansions, e.2 ≠ [] := by decide +kernel
  rw [foldChar, CaseMap.apply, Ne, List.map_eq_nil_iff]
  rcases foldMap.applyNat_cases c.toNat with ⟨r, -, -, happly⟩ | ⟨v, hv, happly⟩ | happly
  · rw [happly]
    exact List.cons_ne_nil _ _
  · rw [happly]
    exact hexpansions _ hv
  · rw [happly]
    exact List.cons_ne_nil _ _

theorem folded_eq_empty_iff {s : String} : folded s = "" ↔ s = "" := by
  rw [folded, ← String.toList_eq_nil_iff, String.toList_ofList, ← String.toList_eq_nil_iff]
  cases s.toList with
  | nil => exact iff_of_true rfl rfl
  | cons c r =>
    refine iff_of_false (fun h => ?_) (List.cons_ne_nil _ _)
    rw [fold_cons, List.append_eq_nil_iff] at h
    exact foldChar_ne_nil c h.1

end LayoutTree.Text

namespace LayoutTree

open LayoutTree.Text LayoutTree.Layout

theorem Property.key_eq_empty_iff {p : Property} : p.key = "" ↔ p.name = "" :=
  folded_eq_empty_iff

namespace Layout

theorem le_of_assignmentFrom {index i : Nat} {inQuotes escaped : Bool} {s : List Char}
    (h : assignmentFrom index inQuotes escaped s = some i) : index ≤ i := by
  fun_induction assignmentFrom index inQuotes escaped s with
  | case1 => cases h
  | case5 => exact Nat.le_of_eq (Option.some.inj h)
  | case2 =>
    rename_i ih
    exact Nat.le_of_succ_le (ih h)
  | case3 =>
    rename_i ih
    exact Nat.le_of_succ_le (ih h)
  | case4 =>
    rename_i ih
    exact Nat.le_of_succ_le (ih h)
  | case6 =>
    rename_i ih
    exact Nat.le_of_succ_le (ih h)

theorem findAssignment_eq_zero_iff {s : List Char} :
    findAssignment s = some 0 ↔ s.head? = some '=' := by
  cases s with
  | nil => exact iff_of_false (fun h => by cases h) (fun h => by cases h)
  | cons c r =>
    rw [List.head?_cons, Option.some.injEq, findAssignment]
    constructor
    · intro h
      by_contra hc
      have hlater : ∃ inQuotes escaped, assignmentFrom 1 inQuotes escaped r = some 0 := by
        rw [assignmentFrom, if_neg Bool.false_ne_true] at h
        by_cases hescape : c = '\\'
        · rw [if_pos hescape] at h
          exact ⟨_, _, h⟩
        · rw [if_neg hescape] at h
          by_cases hquote : c = '"'
          · rw [if_pos hquote] at h
            exact ⟨_, _, h⟩
          · rw [if_neg hquote, if_neg (by simpa using hc)] at h
            exact ⟨_, _, h⟩
      obtain ⟨inQuotes, escaped, hlater⟩ := hlater
      exact absurd (le_of_assignmentFrom hlater) (by decide)
    · rintro rfl
      rfl

/-- A text that does not start with a blank assigns to the empty name exactly if it starts with an
equals sign. -/
theorem unnamed_readProperty_iff {s : List Char} (hblank : ∀ c ∈ s.head?, isBlank c = false) :
    (readProperty s).name = "" ∧ (readProperty s).value.isSome = true ↔ s.head? = some '=' := by
  rw [← findAssignment_eq_zero_iff, readProperty]
  cases h : findAssignment s with
  | none => exact iff_of_false (fun h => by cases h.2) (fun h => by cases h)
  | some i =>
    dsimp only
    rw [and_iff_left (Option.isSome_some), Option.some.injEq, ← String.toList_eq_nil_iff,
      String.toList_ofList]
    cases i with
    | zero => exact iff_of_true rfl rfl
    | succ i =>
      refine iff_of_false (fun hnil => ?_) (Nat.succ_ne_zero i)
      cases s with
      | nil => cases h
      | cons c r =>
        have hc : isBlank c = false := hblank c rfl
        rw [List.take_succ_cons, trim, trimStart_cons_of_not_blank _ hc, trimEnd_cons hc] at hnil
        cases hnil

end Layout

namespace TextFormat

/-! ## Defaults without a name -/

/-- Some lines of a file declare a default without a name for a type: one of them starts with an
equals sign and has no semicolon, where the defaults of the type are open. -/
def DeclaresUnnamed (typeName : String) (ls : List (List Char)) : Prop :=
  ∃ before line rest, ls = before ++ line :: rest ∧
    (∃ type, before.foldl openAfter none = some type ∧ folded type = folded typeName) ∧
    (trim line).head? = some '=' ∧ ';' ∉ trim line

theorem classify_of_head?_eq {line : List Char} (h : line.head? = some '=') :
    Line.classify true line = if ';' ∈ line then .node line else .default (readProperty line) := by
  obtain ⟨r, rfl⟩ := List.head?_eq_some_iff.1 h
  have hfold : fold ('=' :: r) = '=' :: fold r := fold_cons '=' r
  have hgroup : groupKeyword.isPrefixOf (fold ('=' :: r)) = false := by
    rw [hfold]
    rfl
  have hdefaults : defaultsKeyword.isPrefixOf (fold ('=' :: r)) = false := by
    rw [hfold]
    rfl
  rw [Line.classify, if_neg (by simp), hgroup, if_neg Bool.false_ne_true, hdefaults,
    if_neg Bool.false_ne_true]
  by_cases hsemicolon : ';' ∈ '=' :: r
  · rw [if_pos hsemicolon, if_neg (by simpa using hsemicolon)]
  · rw [if_neg hsemicolon, if_pos (by simpa using hsemicolon)]

theorem classify_eq_default {inDefaults : Bool} {line : List Char} {entry : Property}
    (h : Line.classify inDefaults line = .default entry) :
    ';' ∉ line ∧ entry = readProperty line := by
  rw [Line.classify] at h
  split_ifs at h with _ _ _ hdefault
  have hsemicolon : ';' ∉ line := by
    simp only [Bool.and_eq_true, Bool.not_eq_true', List.contains_eq_mem, decide_eq_false_iff_not]
      at hdefault
    exact hdefault.2
  exact ⟨hsemicolon, (Line.default.inj h).symm⟩

/-- A line adds a default without a name exactly if it starts with an equals sign and has no
semicolon. -/
theorem exists_defaultStep?_unnamed_iff {type? : Option String} {type : String}
    {line : List Char} :
    (∃ p : Property, defaultStep? type? line = some (.add type p) ∧ p.name = "") ↔
      type? = some type ∧ (trim line).head? = some '=' ∧ ';' ∉ trim line := by
  have hblank : ∀ c ∈ (trim line).head?, isBlank c = false := fun c hc => isBlank_of_head?_trim hc
  constructor
  · rintro ⟨p, hstep, hname⟩
    rw [defaultStep?] at hstep
    cases hkind : Line.classify type?.isSome (trim line) with
    | default entry =>
      simp only [hkind] at hstep
      obtain ⟨hsemicolon, rfl⟩ := classify_eq_default hkind
      split_ifs at hstep with hvalue
      obtain ⟨type', htype, hadd⟩ := Option.map_eq_some_iff.1 hstep
      obtain ⟨rfl, rfl⟩ := Defaults.Step.add.inj hadd
      exact ⟨htype, (unnamed_readProperty_iff hblank).1 ⟨hname, hvalue⟩, hsemicolon⟩
    | defaultsOf type =>
      simp only [hkind] at hstep
      split_ifs at hstep
      cases hstep
    | _ => simp [hkind] at hstep
  · rintro ⟨rfl, hhead, hsemicolon⟩
    obtain ⟨hname, hvalue⟩ := (unnamed_readProperty_iff hblank).2 hhead
    refine ⟨readProperty (trim line), ?_, hname⟩
    rw [defaultStep?, Option.isSome_some, classify_of_head?_eq hhead, if_neg hsemicolon]
    dsimp only
    rw [if_pos hvalue]
    rfl

theorem mem_defaultSteps {type? : Option String} {ls : List (List Char)} {step : Defaults.Step} :
    step ∈ defaultSteps type? ls ↔ ∃ before line rest, ls = before ++ line :: rest ∧
      defaultStep? (before.foldl openAfter type?) line = some step := by
  induction ls generalizing type? with
  | nil => simp [defaultSteps]
  | cons line ls ih =>
    rw [defaultSteps, List.mem_append, Option.mem_toList, ih, exists_split_cons]
    rfl

/-- The lines of a file declare a default without a name for a type exactly if it comes to stand
among the defaults of the type. -/
theorem mem_keys_entries_after_iff (env : Surroundings) (file : FilePath) (ls : List (List Char))
    (typeName : String) :
    "" ∈ ((after env file .start ls).defaults.entries typeName).map Property.key ↔
      DeclaresUnnamed typeName ls := by
  rw [entries_after, map_key_lastOfEach, mem_keys_firstOfEach, Defaults.added, List.mem_map]
  constructor
  · rintro ⟨p, hp, hkey⟩
    obtain ⟨step, hstep, hdefault⟩ := List.mem_filterMap.1 hp
    obtain ⟨before, line, rest, hls, hline⟩ := mem_defaultSteps.1 hstep
    cases step with
    | declare type => cases hdefault
    | add type q =>
      rw [Defaults.Step.default?] at hdefault
      split_ifs at hdefault with htype
      obtain rfl := Option.some.inj hdefault
      obtain ⟨hopen, hunnamed⟩ :=
        exists_defaultStep?_unnamed_iff.1 ⟨q, hline, Property.key_eq_empty_iff.1 hkey⟩
      exact ⟨before, line, rest, hls, ⟨type, hopen, htype⟩, hunnamed⟩
  · rintro ⟨before, line, rest, hls, ⟨type, hopen, htype⟩, hunnamed⟩
    obtain ⟨p, hline, hname⟩ := exists_defaultStep?_unnamed_iff.2 ⟨hopen, hunnamed⟩
    refine ⟨p, List.mem_filterMap.2 ⟨_, mem_defaultSteps.2 ⟨before, line, rest, hls, hline⟩, ?_⟩,
      Property.key_eq_empty_iff.2 hname⟩
    rw [Defaults.Step.default?, if_pos htype]

/-! ## What lines and files give -/

theorem name_ne_of_mem_lineProperties {text : List Char} {p : Property}
    (h : p ∈ lineProperties text) : p.name ≠ "" := by
  simpa using (List.mem_filter.1 h).2

theorem name_ne_of_assigned? {line : List Char} {p : Property} (h : assigned? line = some p) :
    p.name ≠ "" := by
  rw [assigned?] at h
  dsimp only at h
  split_ifs at h with _ hassigns
  exact Option.some.inj h ▸ hassigns.1

/-- What a line gives and takes from files has names. -/
theorem name_ne_of_mem_givenProperties {store : FileStore} {file : FilePath} {text : List Char}
    {p : Property} (h : p ∈ givenProperties store file text) : p.name ≠ "" := by
  rcases List.mem_append.1 (givenProperties_subset _ _ _ h) with hline | hfile
  · exact name_ne_of_mem_lineProperties hline
  · obtain ⟨entry, -, hassigned⟩ := List.mem_flatMap.1 hfile
    obtain ⟨line, -, hline⟩ := List.mem_filterMap.1 hassigned
    exact name_ne_of_assigned? hline

section Line

variable {env : Surroundings} {file : FilePath} {state : Reading} {text : List Char}
  {d : Descriptor}

theorem typeName_ne_of_readNode (h : (readNode env file state text).2 = .ok d) :
    d.typeName ≠ "" := by
  rw [(properties_of_readNode h).1]
  rw [readNode] at h
  cases hnode : nodeOf file state (splitFragments (· == ';') text) with
  | error fault => simp [hnode] at h
  | ok plain => exact (nodeOf_splitFragments hnode).1 ▸ (nodeOf_eq_ok hnode).1

/-- The properties of a node are named exactly if the defaults of its type are. -/
theorem named_of_readNode_iff (h : (readNode env file state text).2 = .ok d) :
    (∀ p ∈ d.properties, p.name ≠ "") ↔
      "" ∉ (state.defaults.entries d.typeName).map Property.key := by
  have hgiven : "" ∉ (givenProperties env.store file text).map Property.key := by
    intro hmem
    obtain ⟨p, hp, hkey⟩ := List.mem_map.1 hmem
    exact name_ne_of_mem_givenProperties hp (Property.key_eq_empty_iff.1 hkey)
  have hkeys : (∀ p ∈ d.properties, p.name ≠ "") ↔ "" ∉ d.properties.map Property.key := by
    rw [List.mem_map, not_exists]
    exact forall_congr' fun p => by rw [not_and, Ne, Property.key_eq_empty_iff]
  rw [hkeys, mem_keys_of_readNode h, or_iff_left fun hmem => hgiven hmem.1,
    (properties_of_readNode h).1]

end Line

/-! ## The nodes of a forest -/

/-- Each node of the forest of a root file has a type, and each property of it a name. -/
structure FullyNamed (store : FileStore) (normalize : String → Except String String)
    (file : FilePath) : Prop where
  types : ∀ forest, (parse store normalize file).2 = .ok forest →
    ∀ d ∈ Descriptor.walkAll forest, d.typeName ≠ ""
  properties : ∀ forest, (parse store normalize file).2 = .ok forest →
    ∀ d ∈ Descriptor.walkAll forest, ∀ p ∈ d.properties, p.name ≠ ""

/-- **The properties of a forest have names** exactly if no line that places a node of it comes
after one of the same file that declares a default without a name for its type. What node lines and
files with properties give has names, and every node has a type. -/
theorem fullyNamed_iff (store : FileStore) (normalize : String → Except String String)
    (file : FilePath) :
    (∀ forest, (parse store normalize file).2 = .ok forest →
      ∀ d ∈ Descriptor.walkAll forest, d.typeName ≠ "") ∧
    (FullyNamed store normalize file ↔ ∀ v content before line rest text d,
      Contributes store normalize file v → Source.decode v.file v.bytes = .ok content →
      lines content = before ++ line :: rest →
      Places (v.surroundings store normalize) v.file
        (after (v.surroundings store normalize) v.file .start before) line text d →
      ¬ DeclaresUnnamed d.typeName before) := by
  have htypes := (@forall_walkAll_iff store normalize file (fun d => d.typeName ≠ "")
    fun _ => Iff.rfl).2 (by
      rintro v state text d - ⟨content, -, before, line, rest, -, -, hplaces⟩
      exact typeName_ne_of_readNode hplaces.node)
  have hproperties := @forall_walkAll_iff store normalize file
    (fun d => ∀ p ∈ d.properties, p.name ≠ "") fun _ => Iff.rfl
  refine ⟨htypes, fun h v content before line rest text d hv hcontent hlines hplaces => ?_,
    fun h => ⟨htypes, hproperties.2 ?_⟩⟩
  · have hnamed := hproperties.1 h.properties v _ text d hv
      ⟨content, hcontent, before, line, rest, hlines, rfl, hplaces⟩
    rw [← mem_keys_entries_after_iff]
    exact (named_of_readNode_iff hplaces.node).1 hnamed
  · rintro v state text d hv ⟨content, hcontent, before, line, rest, hlines, rfl, hplaces⟩
    refine (named_of_readNode_iff hplaces.node).2 ?_
    rw [mem_keys_entries_after_iff]
    exact h v content before line rest text d hv hcontent hlines hplaces

/-- A block of defaults, one of them without a name, and a node of its type. -/
def unnamedDefault : List Char := "Control=Button\n=5\nButton".toList

/-- The default stands on the node. -/
theorem not_fullyNamed_unnamedDefault : ¬ FullyNamed (oneFile unnamedDefault) .ok onePath := by
  intro h
  have hplain : IsPlainText unnamedDefault := ⟨by decide, by rintro c ⟨⟩; decide⟩
  have hforest := congrArg Prod.snd hplain.parse_oneFile
  have hunnamed : ∃ d ∈ Descriptor.walkAll
      (readLines (oneFileSurroundings unnamedDefault) onePath 0 .start
        (lines unnamedDefault)).1.outline.forest, ∃ p ∈ d.properties, p.name = "" := by
    decide +kernel
  obtain ⟨d, hd, p, hp, hname⟩ := hunnamed
  exact h.properties _ hforest d hd p hp hname

end TextFormat

end LayoutTree
