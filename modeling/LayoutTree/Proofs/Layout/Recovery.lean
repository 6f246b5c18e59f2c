import LayoutTree.Proofs.Layout.Inclusion

/-!
# Recovery from faulty lines

What the lines of a file do one by one (`effects`), the log made of it (`logOf`) and the state that
they lead to (`after`). A line with a fault leaves nothing behind but the mark that the lines nested
below it are skipped too (`unmarked_readLine_of_fault`), and that mark means nothing to a line
without a fault (`readLine_unmarked`). So the lines that are logged as skipped could as well be
absent (`readFile_unlines_kept`).

A node line with a fault therefore costs itself and the node lines nested below it
(`outline_after_of_fault`).
-/

namespace LayoutTree.Text

/-! ## Lines as a text -/

/-- Lines as a text, each closed by a line feed. -/
def unlines (ls : List (List Char)) : List Char :=
  ls.flatMap fun line => line ++ ['\n']

/-- Lines without line breaks are the lines of their text. -/
theorem lines_unlines {ls : List (List Char)}
    (h : ∀ line ∈ ls, ∀ c ∈ line, isLineBreak c = false) : lines (unlines ls) = ls := by
  induction ls with
  | nil => rfl
  | cons line rest ih =>
    rw [unlines, List.flatMap_cons, List.append_assoc, List.singleton_append,
      lines_append_newline (h line List.mem_cons_self), ← unlines,
      ih fun line hline => h line (List.mem_cons_of_mem _ hline)]

theorem no_break_of_mem_linesFrom {current s line : List Char} {afterReturn : Bool}
    (hcurrent : ∀ c ∈ current, isLineBreak c = false) (h : line ∈ linesFrom current afterReturn s) :
    ∀ c ∈ line, isLineBreak c = false := by
  have hnil : ∀ c ∈ ([] : List Char), isLineBreak c = false := fun c hc => by cases hc
  have hreverse : ∀ c ∈ current.reverse, isLineBreak c = false := fun c hc =>
    hcurrent c (List.mem_reverse.1 hc)
  induction s generalizing current afterReturn with
  | nil =>
    rw [linesFrom] at h
    split at h
    · cases h
    · rw [List.mem_singleton.1 h]
      exact hreverse
  | cons c r ih =>
    rw [linesFrom] at h
    split at h
    · exact ih hnil h (by simp)
    · split at h
      · rcases List.mem_cons.1 h with rfl | h
        · exact hreverse
        · exact ih hnil h (by simp)
      · next hc =>
        have hcons : ∀ d ∈ c :: current, isLineBreak d = false := by
          intro d hd
          rcases List.mem_cons.1 hd with rfl | hd
          · exact eq_false_of_ne_true hc
          · exact hcurrent d hd
        exact ih hcons h fun d hd => hcons d (List.mem_reverse.1 hd)

/-- The lines of a text hold no line breaks. -/
theorem no_break_of_mem_lines {s line : List Char} (h : line ∈ lines s) :
    ∀ c ∈ line, isLineBreak c = false :=
  no_break_of_mem_linesFrom (fun c hc => by cases hc) h

end LayoutTree.Text

namespace LayoutTree.TextFormat

open LayoutTree.Text LayoutTree.Layout

variable (env : Surroundings) (file : FilePath)

/-! ## Line by line -/

/-- What each line does in the state that the lines before it lead to. -/
def effects (state : Reading) : List (List Char) → List Effect
  | [] => []
  | line :: rest =>
    readLine env file state line :: effects (readLine env file state line).state rest

/-- What lines establish after what was read before. -/
def after (state : Reading) (lines : List (List Char)) : Reading :=
  lines.foldl (fun state line => (readLine env file state line).state) state

/-- The warning that a line is skipped, if it has a fault. -/
def Effect.skipped (file : FilePath) (number : Nat) (e : Effect) : Log :=
  (e.fault.map fun fault => warning (fault.report file number)).toList

/-- The log of lines that do this, counted from `number`: what each logs while it is read, and then
that it is skipped, if it is. -/
def logOf (number : Nat) : List Effect → Log
  | [] => []
  | e :: rest => e.log ++ e.skipped file number ++ logOf (number + 1) rest

/-- The lines that are not skipped. -/
def kept (state : Reading) (ls : List (List Char)) : List (List Char) :=
  ((ls.zip (effects env file state ls)).filter fun line => line.2.fault.isNone).map Prod.fst

theorem readLines_fst (number : Nat) (state : Reading) (lines : List (List Char)) :
    (readLines env file number state lines).1 = after env file state lines := by
  induction lines generalizing number state with
  | nil => rfl
  | cons line rest ih => exact ih (number + 1) _

theorem readLines_snd (number : Nat) (state : Reading) (lines : List (List Char)) :
    (readLines env file number state lines).2 = logOf file number (effects env file state lines) := by
  induction lines generalizing number state with
  | nil => rfl
  | cons line rest ih =>
    rw [readLines, effects, logOf, ← ih (number + 1)]
    rfl

theorem readLines_append (number : Nat) (state : Reading) (ls more : List (List Char)) :
    readLines env file number state (ls ++ more) =
      (let first := readLines env file number state ls
      let second := readLines env file (number + ls.length) first.1 more
      (second.1, first.2 ++ second.2)) := by
  induction ls generalizing number state with
  | nil => rfl
  | cons line rest ih =>
    rw [List.cons_append, readLines, ih, readLines, List.length_cons, Nat.add_right_comm,
      Nat.add_assoc]
    simp only [List.append_assoc]

theorem after_cons (state : Reading) (line : List Char) (rest : List (List Char)) :
    after env file state (line :: rest) = after env file (readLine env file state line).state rest :=
  rfl

theorem after_append (state : Reading) (lines more : List (List Char)) :
    after env file state (lines ++ more) = after env file (after env file state lines) more :=
  List.foldl_append

theorem kept_cons (state : Reading) (line : List Char) (rest : List (List Char)) :
    kept env file state (line :: rest) =
      (if (readLine env file state line).fault.isNone then [line] else []) ++
        kept env file (readLine env file state line).state rest := by
  simp only [kept, effects, List.zip_cons_cons, List.filter_cons]
  split <;> rfl

theorem kept_subset (state : Reading) (ls : List (List Char)) : kept env file state ls ⊆ ls := by
  intro line hline
  obtain ⟨⟨line, e⟩, hmem, rfl⟩ := List.mem_map.1 hline
  exact (List.of_mem_zip (List.mem_filter.1 hmem).1).1

/-! ## The mark of a skipped line -/

/-- A state without the mark that a line was skipped. -/
def Reading.unmarked (state : Reading) : Reading := { state with skippedAt := none }

/-- What a line does, without a mark that a line was skipped. -/
def Effect.unmarked (e : Effect) : Effect := { e with state := e.state.unmarked }

variable {env file} {state : Reading} {line : List Char}

/-- The node of a line does not depend on the mark. -/
theorem readNode_of_mark (mark : Option Nat) (text : List Char) :
    readNode env file { state with skippedAt := mark } text = readNode env file state text := by
  have hnode : ∀ fragments, nodeOf file { state with skippedAt := mark } fragments =
      nodeOf file state fragments := by
    intro fragments
    cases fragments <;> rfl
  rw [readNode, readNode, hnode]

/-- Nothing but a node line meets the mark. -/
theorem readLine_of_mark (mark : Option Nat)
    (h : ∀ text, Line.classify state.defaultsType.isSome (trim line) ≠ .node text) :
    readLine env file { state with skippedAt := mark } line =
      { readLine env file state line with
        state := { (readLine env file state line).state with skippedAt := mark } } := by
  unfold readLine
  dsimp only
  generalize hkind : Line.classify state.defaultsType.isSome (trim line) = kind
  cases kind with
  | ignored => rfl
  | group name =>
    dsimp only
    cases env.normalize (String.ofList name) <;> rfl
  | defaultsOf type =>
    dsimp only
    split <;> rfl
  | default entry =>
    dsimp only
    split <;> rfl
  | node text => exact absurd hkind (h text)

/-- **A line with a fault** leaves nothing behind but the mark. -/
theorem unmarked_readLine_of_fault (h : (readLine env file state line).fault.isNone = false) :
    (readLine env file state line).state.unmarked = state.unmarked := by
  unfold readLine at h ⊢
  generalize Line.classify state.defaultsType.isSome (trim line) = kind at h ⊢
  cases kind with
  | ignored => cases h
  | group name =>
    dsimp only at h ⊢
    cases hname : env.normalize (String.ofList name) with
    | error message => rfl
    | ok name =>
      rw [hname] at h
      cases h
  | defaultsOf type =>
    dsimp only at h ⊢
    split
    · rfl
    · next htype =>
      rw [if_neg htype] at h
      cases h
  | default entry =>
    dsimp only at h
    split at h <;> cases h
  | node text =>
    dsimp only at h ⊢
    unfold readNodeLine at h ⊢
    split
    · rfl
    · next hs =>
      rw [if_neg hs] at h
      rcases hr : readNode env file state text with ⟨log, fault | d⟩
      · rfl
      · rw [hr] at h
        cases h

/-- Where nothing is skipped, a node line does not meet the mark either. -/
theorem readLine_of_unskipped {text : List Char} {mark : Option Nat}
    (hkind : Line.classify state.defaultsType.isSome (trim line) = .node text)
    (h : state.skippedAt.any (· < indentation line) = false)
    (hmark : mark.any (· < indentation line) = false) :
    readLine env file { state with skippedAt := mark } line = readLine env file state line := by
  have hnode : readNode env file { state with skippedAt := mark } text =
      readNode env file state text := readNode_of_mark mark text
  simp only [readLine, hkind, readNodeLine, h, hmark, Bool.false_eq_true, if_false, hnode]

/-- **A line without a fault** does the same whatever was skipped before. -/
theorem readLine_unmarked (h : (readLine env file state line).fault.isNone = true) :
    readLine env file state.unmarked line = (readLine env file state line).unmarked := by
  by_cases hnode : ∃ text, Line.classify state.defaultsType.isSome (trim line) = .node text
  · obtain ⟨text, hkind⟩ := hnode
    have hline : readLine env file state line =
      readNodeLine env file state (indentation line) text := by rw [readLine, hkind]
    cases hs : state.skippedAt.any (· < indentation line) with
    | true =>
      rw [hline, readNodeLine, if_pos hs] at h
      cases h
    | false =>
      -- A node line that is placed ends the mark, so what it leads to has none either way.
      have hplaced : (readLine env file state line).unmarked = readLine env file state line := by
        rw [hline, readNodeLine, if_neg (ne_true_of_eq_false hs)] at h ⊢
        rcases hr : readNode env file state text with ⟨log, fault | d⟩
        · rw [hr] at h
          cases h
        · rfl
      rw [hplaced]
      exact readLine_of_unskipped hkind hs rfl
  · exact readLine_of_mark none fun text hkind => hnode ⟨text, hkind⟩

/-! ## Without the lines that are skipped -/

section Kept

variable (env file)

/-- The lines without a fault do on their own what they do among the others. -/
theorem effects_kept (state : Reading) (ls : List (List Char)) :
    effects env file state.unmarked (kept env file state ls) =
      ((effects env file state ls).filter fun e => e.fault.isNone).map Effect.unmarked := by
  induction ls generalizing state with
  | nil => rfl
  | cons line rest ih =>
    rw [kept_cons, effects, List.filter_cons]
    cases h : (readLine env file state line).fault.isNone with
    | true =>
      rw [if_pos rfl, if_pos rfl, List.singleton_append, effects, List.map_cons,
        readLine_unmarked h, ← ih]
      rfl
    | false =>
      rw [if_neg Bool.false_ne_true, if_neg Bool.false_ne_true, List.nil_append, ← ih,
        unmarked_readLine_of_fault h]

/-- The lines without a fault lead on their own to the same state, but for the mark. -/
theorem after_kept (state : Reading) (ls : List (List Char)) :
    after env file state.unmarked (kept env file state ls) =
      (after env file state ls).unmarked := by
  induction ls generalizing state with
  | nil => rfl
  | cons line rest ih =>
    rw [kept_cons, after_cons, ← ih]
    cases h : (readLine env file state line).fault.isNone with
    | true =>
      rw [if_pos rfl, List.singleton_append, after_cons, readLine_unmarked h]
      rfl
    | false =>
      rw [if_neg Bool.false_ne_true, List.nil_append, unmarked_readLine_of_fault h]

/-- The warning about a line is in the log. -/
theorem warning_mem_logOf {state : Reading} {before : List (List Char)} {line : List Char}
    {fault : LineFault}
    (h : (readLine env file (after env file state before) line).fault = some fault)
    (rest : List (List Char)) (number : Nat) :
    warning (fault.report file (number + before.length)) ∈
      logOf file number (effects env file state (before ++ line :: rest)) := by
  induction before generalizing state number with
  | nil =>
    have hline : (readLine env file state line).fault = some fault := h
    simp [effects, logOf, Effect.skipped, hline]
  | cons first before ih =>
    have hmem := ih h (number + 1)
    rw [Nat.add_right_comm, Nat.add_assoc] at hmem
    exact List.mem_append_right _ hmem

theorem logOf_of_no_fault {es : List Effect} (h : ∀ e ∈ es, e.fault = none) (number : Nat) :
    logOf file number es = es.flatMap Effect.log := by
  induction es generalizing number with
  | nil => rfl
  | cons e rest ih =>
    rw [logOf, Effect.skipped, h e List.mem_cons_self, List.flatMap_cons,
      ih fun e he => h e (List.mem_cons_of_mem _ he)]
    simp

/-- The forest of a file is that of the state that its lines lead to, and the log is that of what
they do. -/
theorem readFile_eq_after (store : FileStore) (normalize : String → Except String String)
    (active : List Location) (content : List Char) :
    readFile store normalize active file content =
      (logOf file 0 (effects (surroundings store normalize (readFile store normalize) active) file
          .start (lines content)),
        (after (surroundings store normalize (readFile store normalize) active) file .start
          (lines content)).outline.forest) := by
  rw [readFile_eq, readWith, readLines_fst, readLines_snd]

/-- **Recovery is exact.** The log of a file is that of its lines one by one, with a warning for each
that is skipped. Without these lines no line of the file is skipped, and while the files that lines
name stay as they are, the rest of the log and the forest stay the same. -/
theorem readFile_unlines_kept (store : FileStore) (normalize : String → Except String String)
    (active : List Location) (content : List Char) :
    let env := surroundings store normalize (readFile store normalize) active
    let done := effects env file .start (lines content)
    let rest := kept env file .start (lines content)
    (readFile store normalize active file content).1 = logOf file 0 done ∧
      lines (unlines rest) = rest ∧
      (∀ e ∈ effects env file .start rest, e.fault = none) ∧
      readFile store normalize active file (unlines rest) =
        ((done.filter fun e => e.fault.isNone).flatMap Effect.log,
          (readFile store normalize active file content).2) := by
  intro env done rest
  have hread := readFile_eq_after file store normalize active
  have hrest : lines (unlines rest) = rest := lines_unlines fun line hline =>
    no_break_of_mem_lines (kept_subset env file _ _ hline)
  have heffects : effects env file .start rest =
      (done.filter fun e => e.fault.isNone).map Effect.unmarked := effects_kept env file .start _
  have hafter : after env file .start rest = (after env file .start (lines content)).unmarked :=
    after_kept env file .start _
  have hnone : ∀ e ∈ effects env file .start rest, e.fault = none := by
    intro e he
    rw [heffects] at he
    obtain ⟨d, hd, rfl⟩ := List.mem_map.1 he
    exact Option.isNone_iff_eq_none.1 (List.mem_filter.1 hd).2
  refine ⟨by rw [hread], hrest, hnone, ?_⟩
  rw [hread, hread, hrest, logOf_of_no_fault file hnone, heffects, hafter, List.flatMap_map]
  rfl

/-- A type is missing twice, and a line is nested below one of these lines. -/
example : kept ⟨⟨[], []⟩, .ok, fun _ => .ok .absent⟩ (.ofString "a.txt") .start
    ["Control=".toList, "Panel".toList, "=x".toList, "  Label".toList, "Button".toList] =
      ["Panel".toList, "Button".toList] := by
  decide +kernel

end Kept

/-! ## Without the lines nested below -/

section Nested

variable (env file)

/-- The lines after a node line, without the node lines nested below it. -/
def withoutNested (indent : Nat) (state : Reading) : List (List Char) → List (List Char)
  | [] => []
  | line :: rest =>
    match Line.classify state.defaultsType.isSome (trim line) with
    | .node _ => if indent < indentation line then withoutNested indent state rest else line :: rest
    | _ => line :: withoutNested indent (readLine env file state line).state rest

theorem withoutNested_subset (indent : Nat) (state : Reading) (ls : List (List Char)) :
    withoutNested env file indent state ls ⊆ ls := by
  induction ls generalizing state with
  | nil => exact List.Subset.refl _
  | cons line rest ih =>
    rw [withoutNested]
    split
    · split
      · exact List.subset_cons_of_subset _ (ih state)
      · exact List.Subset.refl _
    · exact List.cons_subset_cons _ (ih _)

/-- After the mark of a node line, the node lines nested below it do nothing. The two readings differ
in nothing but the mark until a line ends the nesting. -/
theorem after_withoutNested {indent : Nat} {state : Reading}
    (h : state.skippedAt.any (· < indent) = false) (rest : List (List Char)) :
    (after env file { state with skippedAt := some indent } rest).unmarked =
      (after env file state (withoutNested env file indent state rest)).unmarked := by
  induction rest generalizing state with
  | nil => rfl
  | cons line rest ih =>
    by_cases hnode : ∃ text, Line.classify state.defaultsType.isSome (trim line) = .node text
    · obtain ⟨text, hkind⟩ := hnode
      rw [withoutNested, hkind]
      by_cases hnested : indent < indentation line
      · have hskip : (readLine env file { state with skippedAt := some indent } line).state =
            { state with skippedAt := some indent } := by
          simp only [readLine, hkind, readNodeLine, Option.any_some, hnested, decide_true, if_true]
        rw [if_pos hnested, after_cons, hskip]
        exact ih h
      · -- This line ends the nesting: neither mark skips it, and both readings go on alike.
        have hmark : (some indent).any (· < indentation line) = false := by simpa using hnested
        have hs : state.skippedAt.any (· < indentation line) = false := by
          cases hat : state.skippedAt with
          | none => rfl
          | some k =>
            simp only [hat, Option.any_some, decide_eq_false_iff_not] at h ⊢
            omega
        rw [if_neg hnested, after_cons, after_cons, readLine_of_unskipped hkind hs hmark]
    · have hother : ∀ text, Line.classify state.defaultsType.isSome (trim line) ≠ .node text :=
        fun text hkind => hnode ⟨text, hkind⟩
      have hwithout : withoutNested env file indent state (line :: rest) =
          line :: withoutNested env file indent (readLine env file state line).state rest := by
        rw [withoutNested]
        split
        · next text hkind => exact absurd hkind (hother text)
        · rfl
      have hat : (readLine env file state line).state.skippedAt = state.skippedAt :=
        congrArg (fun e : Effect => e.state.skippedAt) (readLine_of_mark state.skippedAt hother)
      rw [hwithout, after_cons, after_cons, readLine_of_mark (some indent) hother]
      exact ih (by rw [hat, h])

variable {env file}

/-- **A node line with a fault** costs itself and the node lines nested below it. -/
theorem outline_after_of_fault {state : Reading} {before rest : List (List Char)} {line : List Char}
    (h : (after env file state before).skippedAt.any (· < indentation line) = false)
    (hline : (readLine env file (after env file state before) line).state =
      { after env file state before with skippedAt := some (indentation line) }) :
    (after env file state (before ++ line :: rest)).outline =
      (after env file state (before ++ withoutNested env file (indentation line)
        (after env file state before) rest)).outline := by
  have hrest := congrArg Reading.outline (after_withoutNested env file h rest)
  rw [after_append, after_append, after_cons, hline]
  exact hrest

end Nested

end LayoutTree.TextFormat
