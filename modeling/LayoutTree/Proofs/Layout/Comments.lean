import LayoutTree.Proofs.Layout.Precedence
import LayoutTree.Proofs.Layout.Printing
import LayoutTree.Proofs.Layout.Provenance
import LayoutTree.Proofs.Layout.Silence

/-!
# Comments taken out

A line of a text, up to its line feed, can hold other characters that end a line, and then the
reader takes it for several lines. Taking such a line out of a file changes nothing exactly if each
of these is silent (`isInert_comment_iff`). That is so for a comment without such characters
(`isInert_of_comment`), but what stands after one in a comment is read as a line of its own.

That nothing else can be taken out is seen in small files. A line in which something else stands
than settings places a node or is skipped (`onlySettings_of_quiet`). One that opens the defaults of
a type shows in a line after it which describes a node without a type, and one that sets the group
in two files with different groups before it.
-/

namespace LayoutTree.Text

/-! ## Texts without a line -/

/-- A text in which no line is left open: it is empty or ends in a line feed. -/
def ClosesLines (s : List Char) : Prop := ∀ c ∈ s.getLast?, c = '\n'

/-- The text `s'` is `s` without a line `l` and its line feed. -/
def DropsLine (l s s' : List Char) : Prop :=
  ∃ before rest, ClosesLines before ∧ s = before ++ (l ++ '\n' :: rest) ∧ s' = before ++ rest

theorem linesFrom_append_newline (current : List Char) (afterReturn : Bool) (s rest : List Char) :
    linesFrom current afterReturn (s ++ '\n' :: rest) =
      linesFrom current afterReturn (s ++ ['\n']) ++ lines rest := by
  induction s generalizing current afterReturn with
  | nil => cases afterReturn <;> rfl
  | cons c s ih =>
    rw [List.cons_append, List.cons_append, linesFrom, linesFrom]
    split
    · exact ih _ _
    · split
      · rw [ih, List.cons_append]
      · exact ih _ _

/-- After a text in which no line is left open, lines are as at the start. -/
theorem lines_append_of_closesLines {s : List Char} (h : ClosesLines s) (t : List Char) :
    lines (s ++ t) = lines s ++ lines t := by
  rcases List.eq_nil_or_concat s with rfl | ⟨s, c, rfl⟩
  · rfl
  · rw [List.concat_eq_append] at h ⊢
    obtain rfl : c = '\n' := h c (by simp)
    rw [List.append_assoc, List.singleton_append, lines, linesFrom_append_newline, ← lines]

/-- The line feed at the end of a text closes its last line, or an empty one after it. -/
theorem linesFrom_append_singleton {current : List Char} {afterReturn : Bool}
    (h : afterReturn = true → current = []) (s : List Char) :
    linesFrom current afterReturn (s ++ ['\n']) = linesFrom current afterReturn s ∨
      linesFrom current afterReturn (s ++ ['\n']) = linesFrom current afterReturn s ++ [[]] := by
  induction s generalizing current afterReturn with
  | nil =>
    cases afterReturn with
    | true =>
      rw [h rfl]
      exact .inl rfl
    | false =>
      cases current with
      | nil => exact .inr rfl
      | cons c current => exact .inl (by simp [linesFrom, isLineBreak])
  | cons c s ih =>
    rw [List.cons_append, linesFrom, linesFrom]
    split
    · exact ih (fun hfalse => by cases hfalse)
    · split
      · rcases @ih [] (c == '\r') (fun _ => rfl) with hrest | hrest
        · exact .inl (by rw [hrest])
        · exact .inr (by rw [hrest, List.cons_append])
      · exact ih (fun hfalse => by cases hfalse)

/-- A text without line breaks is one line. -/
theorem mem_lines_of_no_break {s line : List Char} (h : ∀ c ∈ s, isLineBreak c = false)
    (hline : line ∈ lines s) : line = s := by
  have hclosed : lines (s ++ ['\n']) = [s] := lines_append_newline h []
  rcases @linesFrom_append_singleton [] false (fun _ => rfl) s with hs | hs
  · rw [lines, ← hs, ← lines, hclosed] at hline
    exact List.mem_singleton.1 hline
  · rw [← lines, hclosed] at hs
    have hmem : line ∈ lines s ++ [[]] := List.mem_append_left _ hline
    rw [lines, ← hs] at hmem
    exact List.mem_singleton.1 hmem

end LayoutTree.Text

namespace LayoutTree.TextFormat

open LayoutTree.Text LayoutTree.Layout

/-- Two files hold the same bytes, or their texts are the same but for a line `l`. -/
def DropsIn (l : List Char) (bytes bytes' : ByteArray) : Prop :=
  bytes = bytes' ∨ ∃ s s', Source.decode? bytes = some s ∧ Source.decode? bytes' = some s' ∧
    DropsLine l s s'

/-- Taking a line out of files changes no forest, and no log but for the numbers of lines. -/
def IsInert (normalize : String → Except String String) (l : List Char) : Prop :=
  ∀ store store' file, store.Matches (DropsIn l) store' →
    (parse store normalize file).2 = (parse store' normalize file).2 ∧
      (parse store normalize file).1.Renumbered (parse store' normalize file).1

/-! ## Silent lines can be taken out -/

theorem isSilent_lines_append_newline_iff {l : List Char} :
    (∀ piece ∈ lines (l ++ ['\n']), isSilent piece = true) ↔
      ∀ piece ∈ lines l, isSilent piece = true := by
  rcases @linesFrom_append_singleton [] false (fun _ => rfl) l with hl | hl
  · rw [lines, hl, ← lines]
  · rw [lines, hl, ← lines, List.forall_mem_append]
    exact and_iff_left (by decide)

theorem spoken_of_dropsLine {l s s' : List Char} (h : DropsLine l s s')
    (hl : ∀ piece ∈ lines l, isSilent piece = true) : spoken s = spoken s' := by
  obtain ⟨before, rest, hbefore, rfl, rfl⟩ := h
  have hsilent := isSilent_lines_append_newline_iff.2 hl
  have hline : lines (l ++ '\n' :: rest) = lines (l ++ ['\n']) ++ lines rest :=
    linesFrom_append_newline [] false l rest
  have hnone : (lines (l ++ ['\n'])).filter (fun line => !isSilent line) = [] :=
    List.filter_eq_nil_iff.2 fun piece hpiece => by simp [hsilent piece hpiece]
  rw [spoken, spoken, lines_append_of_closesLines hbefore, lines_append_of_closesLines hbefore,
    hline, List.filter_append, List.filter_append, List.filter_append, hnone, List.nil_append]

theorem isInert_of_isSilent {l : List Char} (hl : ∀ piece ∈ lines l, isSilent piece = true)
    (normalize : String → Except String String) : IsInert normalize l := by
  intro store store' file hstore
  refine parse_alike (hstore.mono ?_) normalize file
  rintro bytes bytes' (rfl | ⟨s, s', hs, hs', hdrops⟩)
  · exact rfl
  · rw [SaysSame, hs, hs', Option.map_some, Option.map_some, spoken_of_dropsLine hdrops hl]

theorem head?_trimEnd_cons {c : Char} (h : isBlank c = false) (s : List Char) :
    (trimEnd (c :: s)).head? = some c := by
  rw [trimEnd, List.reverse_cons, List.dropWhile_append, List.head?_reverse]
  split
  · rw [List.dropWhile_cons_of_neg (by simp [h]), List.getLast?_singleton]
  · exact List.getLast?_concat

/-- A comment without line breaks is silent. -/
theorem isSilent_of_comment {l : List Char} (hcomment : (trimStart l).head? = some '#')
    (hl : ∀ c ∈ l, isLineBreak c = false) : ∀ piece ∈ lines l, isSilent piece = true := by
  intro piece hpiece
  obtain rfl := mem_lines_of_no_break hl hpiece
  obtain ⟨r, hr⟩ := List.head?_eq_some_iff.1 hcomment
  have hhead : (trim piece).head? = some '#' := by
    rw [trim, hr]
    exact head?_trimEnd_cons (by decide) r
  rw [isSilent, hhead, Bool.or_eq_true]
  exact .inr rfl

/-- **A comment without line breaks** can be taken out of any text. -/
theorem isInert_of_comment {l : List Char} (hcomment : (trimStart l).head? = some '#')
    (hl : ∀ c ∈ l, isLineBreak c = false) (normalize : String → Except String String) :
    IsInert normalize l :=
  isInert_of_isSilent (isSilent_of_comment hcomment hl) normalize

/-! ## Lines that neither place nodes nor fail -/

/-- Whether a line is a setting, given the type whose defaults are open: it neither describes a node
nor opens defaults of no type. -/
def IsSetting (type? : Option String) (line : List Char) : Prop :=
  match Line.classify type?.isSome (trim line) with
  | .node _ => False
  | .defaultsOf type => type.isEmpty = false
  | _ => True

/-- Whether lines are settings, given the type whose defaults are open before them. -/
def OnlySettings (type? : Option String) : List (List Char) → Prop
  | [] => True
  | line :: rest => IsSetting type? line ∧ OnlySettings (openAfter type? line) rest

/-- The group after a line, where names of groups stay as they are. -/
def groupAfterLine (type? group : Option String) (line : List Char) : Option String :=
  match Line.classify type?.isSome (trim line) with
  | .group name => if (String.ofList name).isEmpty then none else some (String.ofList name)
  | _ => group

/-- The group after lines, where names of groups stay as they are. -/
def groupAfter (type? group : Option String) : List (List Char) → Option String
  | [] => group
  | line :: rest => groupAfter (openAfter type? line) (groupAfterLine type? group line) rest

theorem defaultsType_after (env : Surroundings) (file : FilePath) (state : Reading)
    (ls : List (List Char)) :
    (after env file state ls).defaultsType = ls.foldl openAfter state.defaultsType := by
  induction ls generalizing state with
  | nil => rfl
  | cons line rest ih =>
    rw [after_cons, ih, (defaults_readLine env file state line).2, List.foldl_cons]

section Settings

variable {env : Surroundings} (hnormalize : env.normalize = .ok) (file : FilePath)
include hnormalize

theorem readLine_of_isSetting {state : Reading} {line : List Char}
    (h : IsSetting state.defaultsType line) :
    (readLine env file state line).log = [] ∧ (readLine env file state line).fault = none ∧
      (readLine env file state line).state.outline = state.outline ∧
      (readLine env file state line).state.skippedAt = state.skippedAt := by
  rw [IsSetting] at h
  rw [readLine]
  cases hkind : Line.classify state.defaultsType.isSome (trim line) with
  | ignored => exact ⟨rfl, rfl, rfl, rfl⟩
  | group name =>
    rw [hnormalize]
    exact ⟨rfl, rfl, rfl, rfl⟩
  | defaultsOf type =>
    rw [hkind] at h
    dsimp only at h ⊢
    rw [if_neg (ne_true_of_eq_false h)]
    exact ⟨rfl, rfl, rfl, rfl⟩
  | default entry =>
    dsimp only
    split <;> exact ⟨rfl, rfl, rfl, rfl⟩
  | node text =>
    rw [hkind] at h
    exact h.elim

/-- Settings log nothing and place nothing. -/
theorem readLines_of_onlySettings {state : Reading} {ls : List (List Char)}
    (h : OnlySettings state.defaultsType ls) (number : Nat) :
    (readLines env file number state ls).2 = [] ∧
      (after env file state ls).outline = state.outline ∧
      (after env file state ls).skippedAt = state.skippedAt := by
  induction ls generalizing state number with
  | nil => exact ⟨rfl, rfl, rfl⟩
  | cons line rest ih =>
    obtain ⟨hline, hrest⟩ := h
    obtain ⟨hlog, hfault, houtline, hskipped⟩ := readLine_of_isSetting hnormalize file hline
    rw [← (defaults_readLine env file state line).2] at hrest
    obtain ⟨hmore, houtline', hskipped'⟩ := ih hrest (number + 1)
    refine ⟨?_, houtline'.trans houtline, hskipped'.trans hskipped⟩
    rw [readLines]
    simp only [hlog, hfault, hmore, Option.map_none, Option.toList_none, List.append_nil]

theorem group_readLine (state : Reading) (line : List Char) :
    (readLine env file state line).state.group =
      groupAfterLine state.defaultsType state.group line := by
  rw [readLine, groupAfterLine, hnormalize]
  cases Line.classify state.defaultsType.isSome (trim line) with
  | ignored => rfl
  | group name => rfl
  | defaultsOf type =>
    dsimp only
    split <;> rfl
  | default entry =>
    dsimp only
    split <;> rfl
  | node text =>
    dsimp only [readNodeLine]
    split
    · rfl
    · split <;> rfl

theorem group_after (state : Reading) (ls : List (List Char)) :
    (after env file state ls).group = groupAfter state.defaultsType state.group ls := by
  induction ls generalizing state with
  | nil => rfl
  | cons line rest ih =>
    rw [after_cons, ih, (defaults_readLine env file state line).2,
      group_readLine hnormalize file state line, groupAfter]

omit hnormalize in
/-- **Lines that log nothing and place nothing** are settings. -/
theorem onlySettings_of_quiet {file : FilePath} {number : Nat} {state : Reading}
    {ls : List (List Char)} (hlog : (readLines env file number state ls).2 = [])
    (hnodes : (after env file state ls).outline.nodes = []) :
    OnlySettings state.defaultsType ls := by
  induction ls generalizing number state with
  | nil => trivial
  | cons line rest ih =>
    rw [readLines] at hlog
    obtain ⟨hfirst, hrest⟩ := List.append_eq_nil_iff.1 hlog
    have hfault : (readLine env file state line).fault = none := by
      simpa using (List.append_eq_nil_iff.1 hfirst).2
    rw [after_cons] at hnodes
    have hsettings := ih hrest hnodes
    rw [(defaults_readLine env file state line).2] at hsettings
    refine ⟨?_, hsettings⟩
    rw [IsSetting]
    cases hkind : Line.classify state.defaultsType.isSome (trim line) with
    | node text =>
      obtain ⟨d, hnode, -⟩ := outline_of_node hkind hfault
      have hplaced := nodes_readLine ⟨hkind, hfault, hnode⟩
      have hmem : d.alone ∈ (readLine env file state line).state.outline.nodes := by
        rw [hplaced, Descriptor.nodes_eq]
        exact List.mem_append_right _ List.mem_cons_self
      rw [List.eq_nil_iff_forall_not_mem] at hnodes
      exact absurd (mem_nodes_after.2 (.inl hmem)) (hnodes d.alone)
    | defaultsOf type =>
      cases htype : type.isEmpty with
      | false => exact htype
      | true =>
        rw [readLine, hkind] at hfault
        simp [htype] at hfault
    | _ => trivial

end Settings

/-! ## Small files around a line -/

/-- A text without carriage returns and without a byte order mark, which stands in a file as it
is. -/
structure IsPlainText (s : List Char) : Prop where
  noReturn : '\r' ∉ s
  noMark : ∀ c ∈ s.head?, c.toNat ≠ 0xFEFF

/-- The path of the one file. -/
def onePath : FilePath := .ofString "a.txt"

/-- A store with one file. -/
def oneFile (s : List Char) : FileStore := ⟨[(["a.txt"], .file (String.ofList s).toUTF8)], []⟩

/-- What the lines of the one file depend on. -/
def oneFileSurroundings (s : List Char) : Surroundings :=
  surroundings (oneFile s) .ok (readFile (oneFile s) .ok) [["a.txt"]]

theorem IsPlainText.decode?_eq {s : List Char} (h : IsPlainText s) :
    Source.decode? (String.ofList s).toUTF8 = some s := by
  have hmark : dropByteOrderMark s = s := by
    cases s with
    | nil => rfl
    | cons c s => exact if_neg (h.noMark c rfl)
  rw [← Source.decode_eq_ok_iff (p := onePath), Source.decode_toUTF8, String.toList_ofList,
    Descriptor.normalizeNewlines_of_notMem h.noReturn, hmark]

theorem IsPlainText.parse_oneFile {s : List Char} (h : IsPlainText s) :
    parse (oneFile s) .ok onePath =
      (let result := readLines (oneFileSurroundings s) onePath 0 .start (lines s)
      (result.2, .ok result.1.outline.forest)) := by
  have hfile : (oneFile s).read onePath = .ok (["a.txt"], (String.ofList s).toUTF8) := by rfl
  have hsource : Source.read (oneFile s) onePath = .ok (["a.txt"], s) := by
    simp only [Source.read, hfile, Source.decode_eq_ok_iff.2 h.decode?_eq]
  rw [parse, hsource]
  dsimp only
  rw [readFile_eq]
  rfl

theorem matches_oneFile {l s s' : List Char} (hdrops : DropsLine l s s') (hs : IsPlainText s)
    (hs' : IsPlainText s') : (oneFile s).Matches (DropsIn l) (oneFile s') where
  entries := .cons ⟨rfl, .file (.inr ⟨s, s', hs.decode?_eq, hs'.decode?_eq, hdrops⟩)⟩ .nil
  workingDirectory := rfl

/-- A reading that has set the group and nothing else. -/
def Reading.grouped (group : String) : Reading := { Reading.start with group := some group }

section Comment

variable {l : List Char} (hcomment : (trimStart l).head? = some '#') (hreturn : '\r' ∉ l)
include hcomment hreturn

theorem isPlainText_of_comment {before rest : List Char} (hbefore : IsPlainText before)
    (hrest : '\r' ∉ rest) : IsPlainText (before ++ (l ++ '\n' :: rest)) := by
  refine ⟨?_, ?_⟩
  · simp [hbefore.noReturn, hreturn, hrest]
  · cases before with
    | cons c before => exact hbefore.noMark
    | nil =>
      cases l with
      | nil => cases hcomment
      | cons c l =>
        rintro _ ⟨⟩ hmark
        have hblank : isBlank c = false := by
          rw [isBlank, hmark]
          decide
        rw [trimStart, List.dropWhile_cons_of_neg (by simp [hblank])] at hcomment
        cases hcomment
        exact absurd hmark (by decide)

variable (h : IsInert .ok l)
include h

/-- Taking an inert comment out of a file changes neither its forest nor how much is logged. -/
theorem readLines_of_isInert {before rest : List Char} (hclosed : ClosesLines before)
    (hbefore : IsPlainText before) (hrest : IsPlainText rest) :
    ∃ env, env.normalize = .ok ∧
      (let result := readLines env onePath 0 .start
        (lines before ++ (lines (l ++ ['\n']) ++ lines rest))
      let result' := readLines (oneFileSurroundings (before ++ rest)) onePath 0 .start
        (lines before ++ lines rest)
      result.1.outline.forest = result'.1.outline.forest ∧
        result.2.length = result'.2.length) := by
  have hs := isPlainText_of_comment hcomment hreturn hbefore hrest.noReturn
  have hs' : IsPlainText (before ++ rest) := by
    refine ⟨by simp [hbefore.noReturn, hrest.noReturn], ?_⟩
    cases before with
    | nil => exact hrest.noMark
    | cons c before => exact hbefore.noMark
  obtain ⟨hforest, hlog⟩ := h _ _ onePath (matches_oneFile ⟨before, rest, hclosed, rfl, rfl⟩ hs hs')
  rw [hs.parse_oneFile, hs'.parse_oneFile, lines_append_of_closesLines hclosed,
    lines_append_of_closesLines hclosed] at hforest hlog
  have hlines : lines (l ++ '\n' :: rest) = lines (l ++ ['\n']) ++ lines rest :=
    linesFrom_append_newline [] false l rest
  rw [hlines] at hforest hlog
  exact ⟨_, rfl, Except.ok.inj hforest, hlog.length_eq⟩

/-- An inert comment consists of settings. -/
theorem onlySettings_of_isInert : OnlySettings none (lines (l ++ ['\n'])) := by
  obtain ⟨env, -, hforest, hlog⟩ := @readLines_of_isInert l hcomment hreturn h [] []
    (by simp [ClosesLines]) ⟨by simp, by simp⟩ ⟨by simp, by simp⟩
  have hlines : lines [] ++ (lines (l ++ ['\n']) ++ lines []) = lines (l ++ ['\n']) :=
    List.append_nil _
  rw [hlines] at hforest hlog
  have hnodes : (after env onePath .start (lines (l ++ ['\n']))).outline.nodes = [] := by
    rw [← Outline.nodes_forest, ← readLines_fst _ _ 0, hforest]
    rfl
  exact onlySettings_of_quiet (List.eq_nil_of_length_eq_zero hlog) hnodes

/-- After an inert comment, no defaults are open. Otherwise an assignment in the line after it would
be a default, and not a node without a type. -/
theorem openAfter_of_isInert : (lines (l ++ ['\n'])).foldl openAfter none = none := by
  obtain ⟨env, hnormalize, -, hlog⟩ := @readLines_of_isInert l hcomment hreturn h [] "a=b".toList
    (by simp [ClosesLines]) ⟨by simp, by simp⟩ ⟨by decide, by simp⟩
  have hsettings := onlySettings_of_isInert hcomment hreturn h
  have hlines : lines [] ++ (lines (l ++ ['\n']) ++ lines "a=b".toList) =
    lines (l ++ ['\n']) ++ ["a=b".toList] := rfl
  have hone : (readLines (oneFileSurroundings ([] ++ "a=b".toList)) onePath 0 .start
    (lines [] ++ lines "a=b".toList)).2.length = 1 := by rfl
  rw [hlines, hone, readLines_append] at hlog
  dsimp only at hlog
  rw [(readLines_of_onlySettings hnormalize onePath hsettings 0).1, List.nil_append,
    readLines_fst] at hlog
  refine (defaultsType_after env onePath .start _).symm.trans ?_
  generalize after env onePath .start (lines (l ++ ['\n'])) = state at hlog ⊢
  obtain ⟨group, type?, defaults, outline, skippedAt⟩ := state
  cases type? with
  | none => rfl
  | some type => cases hlog

/-- A group that is set before an inert comment is still set after it. -/
theorem groupAfter_of_isInert {c : Char} (hc : c = 'a' ∨ c = 'b') :
    groupAfter none (some (String.ofList [c])) (lines (l ++ ['\n'])) =
      some (String.ofList [c]) := by
  have hplain : IsPlainText ("grupo=".toList ++ [c, '\n']) := by
    rcases hc with rfl | rfl <;> exact ⟨by decide, by simp⟩
  obtain ⟨env, hnormalize, hforest, -⟩ := readLines_of_isInert hcomment hreturn h
    (by simp [ClosesLines]) hplain (⟨by decide, by simp⟩ : IsPlainText "A".toList)
  have hsettings := onlySettings_of_isInert hcomment hreturn h
  have hlines : lines ("grupo=".toList ++ [c, '\n']) ++ (lines (l ++ ['\n']) ++ lines "A".toList) =
      ("grupo=".toList ++ [c]) :: (lines (l ++ ['\n']) ++ ["A".toList]) := by
    rcases hc with rfl | rfl <;> rfl
  have hgroup : (readLine env onePath .start ("grupo=".toList ++ [c])).state =
      .grouped (String.ofList [c]) := by
    rw [readLine, hnormalize]
    rcases hc with rfl | rfl <;> rfl
  have hplaced : (readLines (oneFileSurroundings ("grupo=".toList ++ [c, '\n'] ++ "A".toList))
      onePath 0 .start
      (lines ("grupo=".toList ++ [c, '\n']) ++ lines "A".toList)).1.outline.forest =
        [⟨"A", [], some (String.ofList [c]), [], some onePath.text⟩] := by
    rcases hc with rfl | rfl <;> rfl
  rw [hlines, hplaced, readLines_fst, after_cons, hgroup, after_append, after_cons] at hforest
  have hnode : IsPlainNode "A" [] := ⟨by decide, by simp, by simp, by simp, by simp⟩
  have hstays := group_after hnormalize onePath (.grouped (String.ofList [c])) (lines (l ++ ['\n']))
  obtain ⟨-, houtline, hskipped⟩ := @readLines_of_onlySettings env hnormalize onePath
    (.grouped (String.ofList [c])) _ hsettings 0
  generalize after env onePath (.grouped (String.ofList [c])) (lines (l ++ ['\n'])) = state
    at hforest hstays houtline hskipped
  have hline := readLine_descriptionLine hnode env onePath state hskipped 0
  rw [show "A".toList = descriptionLine 0 "A" [] by rfl, hline] at hforest
  change (state.outline.attach 0 _).forest = _ at hforest
  rw [houtline] at hforest
  exact hstays.symm.trans (congrArg (fun ds => (ds.map Descriptor.group).headD none) hforest)

end Comment

/-! ## Comments -/

theorem isSome_foldl_openAfter (type : String) (ls : List (List Char)) :
    (ls.foldl openAfter (some type)).isSome = true := by
  induction ls generalizing type with
  | nil => rfl
  | cons line rest ih =>
    rw [List.foldl_cons, openAfter]
    split
    · split
      · exact ih _
      · exact ih _
    · exact ih _

/-- Settings that open no defaults and leave the group as it is are silent. -/
theorem isSilent_of_onlySettings {ls : List (List Char)} (hsettings : OnlySettings none ls)
    (hopen : ls.foldl openAfter none = none) {g g' : Option String} (hne : g ≠ g')
    (hgroup : groupAfter none g ls = g) (hgroup' : groupAfter none g' ls = g') :
    ∀ line ∈ ls, isSilent line = true := by
  induction ls with
  | nil => simp
  | cons line rest ih =>
    rw [List.foldl_cons] at hopen
    rw [OnlySettings, IsSetting] at hsettings
    rw [groupAfter] at hgroup hgroup'
    obtain ⟨hline, hrest⟩ := hsettings
    rw [openAfter] at hopen hrest hgroup hgroup'
    rw [groupAfterLine] at hgroup hgroup'
    cases hkind : Line.classify (none : Option String).isSome (trim line) with
    | ignored =>
      rw [hkind] at hopen hrest hgroup hgroup'
      exact List.forall_mem_cons.2 ⟨classify_eq_ignored_iff.1 hkind, ih hrest hopen hgroup hgroup'⟩
    | group name =>
      -- The group after the line is the one that it names, whatever it was before.
      rw [hkind] at hgroup hgroup'
      exact absurd (hgroup.symm.trans hgroup') hne
    | defaultsOf type =>
      rw [hkind] at hline hopen
      dsimp only at hline hopen
      rw [if_neg (ne_true_of_eq_false hline)] at hopen
      have hsome := isSome_foldl_openAfter (String.ofList type) rest
      rw [hopen] at hsome
      cases hsome
    | default entry =>
      -- A default needs a type whose defaults are open.
      rw [Line.classify] at hkind
      split_ifs at hkind with _ _ _ hdefault
      cases hdefault
    | node text =>
      rw [hkind] at hline
      exact hline.elim

/-- **A comment can be taken out** of any text exactly if each line that it is read as is blank or a
comment. -/
theorem isInert_comment_iff {l : List Char} (hcomment : (trimStart l).head? = some '#')
    (hreturn : '\r' ∉ l) :
    (∀ normalize, IsInert normalize l) ↔ ∀ piece ∈ lines l, isSilent piece = true := by
  refine ⟨fun h => ?_, fun h => isInert_of_isSilent h⟩
  have hinert := h .ok
  refine isSilent_lines_append_newline_iff.1 (isSilent_of_onlySettings
    (onlySettings_of_isInert hcomment hreturn hinert) (openAfter_of_isInert hcomment hreturn hinert)
    ?_ (groupAfter_of_isInert hcomment hreturn hinert (.inl rfl))
    (groupAfter_of_isInert hcomment hreturn hinert (.inr rfl)))
  decide

/-- A comment that is read as two lines, both of them comments. -/
theorem isInert_comment_formFeed : (trimStart "  # a;\u000c\t# b".toList).head? = some '#' ∧
    '\r' ∉ "  # a;\u000c\t# b".toList ∧ IsInert .ok "  # a;\u000c\t# b".toList :=
  ⟨by decide, by decide, (isInert_comment_iff (by decide) (by decide)).2 (by decide) .ok⟩

/-- A comment that is read as two lines, the second of which describes a node. -/
def separatorComment : List Char := "# a\u2028Button".toList

/-- Taken out of a file, it takes the node with it. -/
theorem not_isInert_separatorComment : (trimStart separatorComment).head? = some '#' ∧
    '\n' ∉ separatorComment ∧ '\r' ∉ separatorComment ∧ ¬ IsInert .ok separatorComment := by
  have hcomment : (trimStart separatorComment).head? = some '#' := by decide
  have hreturn : '\r' ∉ separatorComment := by decide
  refine ⟨hcomment, by decide, hreturn, fun h => ?_⟩
  have hnil : IsPlainText [] := ⟨by simp, by simp⟩
  have hs : IsPlainText (separatorComment ++ ['\n']) :=
    isPlainText_of_comment hcomment hreturn hnil (List.not_mem_nil)
  have hdrops : DropsLine separatorComment (separatorComment ++ ['\n']) [] :=
    ⟨[], [], by simp [ClosesLines], rfl, rfl⟩
  obtain ⟨hforest, -⟩ := h _ _ onePath (matches_oneFile hdrops hs hnil)
  rw [hs.parse_oneFile, hnil.parse_oneFile] at hforest
  have hlengths := congrArg (fun ds : List Descriptor => ds.length) (Except.ok.inj hforest)
  exact absurd hlengths (by decide +kernel)

end LayoutTree.TextFormat
