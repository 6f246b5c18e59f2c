import LayoutTree.Layout.TextFormat
import Mathlib.Data.List.Find

/-!
# The forest of an indented source

Node lines nest by indentation: the parent of a line is the nearest earlier node line that is
indented less, whether that line stands for a node or fails (`parent?`). A line counts if it and all
lines that it is nested below stand for nodes (`isKept`); the lines that count form a forest in
which siblings keep the order of the source (`forestOf`).

The reading of a source keeps far less than this: the nodes that are still open, innermost first,
and the indentation of the last line that failed. The invariant that ties the two is `Tracks`: the
open nodes are the line of ancestors of the innermost one (`Spine`), the nearest earlier line for an
indentation is found among them unless it lies below the failed line, and below the failed line
nothing counts. One node line keeps it (`Tracks.attach`, `Tracks.fail`, `Tracks.skip`), hence a whole
source does (`tracks_readLines`), and at the end nothing but the forest is left
(`forest_readLines`).
-/

namespace LayoutTree.Layout.Nesting

/-- A line that describes a node: its indentation and the node, unless the line fails. -/
structure NodeLine where
  indentation : Nat
  node : Option Descriptor

variable (ls : List NodeLine)

/-- How far a line is indented. -/
def indentAt (i : Nat) : Nat := (ls[i]?.map NodeLine.indentation).getD 0

/-- The node of a line, unless the line fails. -/
def nodeAt (i : Nat) : Option Descriptor := ls[i]?.bind NodeLine.node

/-- The last of the first `n` lines that is indented less than `k`. -/
def lastBelow (k : Nat) : Nat → Option Nat
  | 0 => none
  | n + 1 => if indentAt ls n < k then some n else lastBelow k n

/-- The line that a line is nested below: the nearest earlier one that is indented less. -/
def parent? (i : Nat) : Option Nat := lastBelow ls (indentAt ls i) i

theorem lt_of_lastBelow {k n j : Nat} (h : lastBelow ls k n = some j) :
    j < n ∧ indentAt ls j < k := by
  induction n with
  | zero => simp [lastBelow] at h
  | succ n ih =>
    simp only [lastBelow] at h
    split at h
    · next hk =>
      obtain rfl := Option.some.inj h
      exact ⟨Nat.lt_succ_self _, hk⟩
    · obtain ⟨hn, hk⟩ := ih h
      exact ⟨Nat.lt_succ_of_lt hn, hk⟩

theorem lt_of_parent? {i j : Nat} (h : parent? ls i = some j) : j < i :=
  (lt_of_lastBelow ls h).1

/-- A line and the lines that it is nested below, outwards. -/
def lineage (i : Nat) : List Nat :=
  i :: match _h : parent? ls i with
    | none => []
    | some j => lineage j
termination_by i
decreasing_by exact lt_of_parent? ls _h

/-- Whether a line and all lines that it is nested below stand for nodes. -/
def isKept (i : Nat) : Bool := (lineage ls i).all fun j => (nodeAt ls j).isSome

/-- The lines that count and are directly below a line, or at the top, in the order of the source. -/
def keptBelow (p : Option Nat) : List Nat :=
  (List.range ls.length).filter fun i => parent? ls i = p && isKept ls i

theorem mem_keptBelow {p : Option Nat} {i : Nat} :
    i ∈ keptBelow ls p ↔ i < ls.length ∧ parent? ls i = p ∧ isKept ls i = true := by
  simp [keptBelow]

/-- The node of a line with the nodes nested below it after those that it has of its own. -/
def treeAt (i : Nat) : Descriptor :=
  let d := (nodeAt ls i).getD default
  { d with children := d.children ++ (keptBelow ls (some i)).attach.map fun ⟨j, _⟩ => treeAt j }
termination_by ls.length - i
decreasing_by
  rename_i h
  obtain ⟨hj, hp, -⟩ := (mem_keptBelow ls).1 h
  have := lt_of_parent? ls hp
  omega

/-- **The forest of indented lines.** -/
def forestOf : List Descriptor := (keptBelow ls none).map (treeAt ls)

/-! ## The line of ancestors -/

/-- The line of ancestors of the innermost open line, if any is open. -/
def lineageFrom : Option Nat → List Nat
  | none => []
  | some i => lineage ls i

theorem lineage_eq (i : Nat) : lineage ls i = i :: lineageFrom ls (parent? ls i) := by
  rw [lineage]
  split <;> simp_all [lineageFrom]

theorem treeAt_eq (i : Nat) :
    treeAt ls i = { (nodeAt ls i).getD default with
      children := ((nodeAt ls i).getD default).children ++ (keptBelow ls (some i)).map (treeAt ls) } := by
  rw [treeAt]
  simp

theorem isKept_eq (i : Nat) :
    isKept ls i = ((nodeAt ls i).isSome && (lineageFrom ls (parent? ls i)).all
      fun j => (nodeAt ls j).isSome) := by
  rw [isKept, lineage_eq, List.all_cons]

theorem mem_lineage_self (i : Nat) : i ∈ lineage ls i := by
  rw [lineage_eq]
  exact List.mem_cons_self

theorem le_of_mem_lineage {i j : Nat} (h : j ∈ lineage ls i) : j ≤ i := by
  induction i using Nat.strongRecOn with
  | ind i ih =>
    rw [lineage_eq, List.mem_cons] at h
    rcases h with rfl | h
    · exact Nat.le_refl _
    · cases hp : parent? ls i with
      | none => simp [hp, lineageFrom] at h
      | some p =>
        rw [hp] at h
        have := ih p (lt_of_parent? ls hp) h
        have := lt_of_parent? ls hp
        omega

/-- Lines of ancestors go on from each of their members. -/
theorem mem_lineage_of_parent? {i j p : Nat} (h : j ∈ lineage ls i) (hp : parent? ls j = some p) :
    p ∈ lineage ls i := by
  induction i using Nat.strongRecOn with
  | ind i ih =>
    rw [lineage_eq, List.mem_cons] at h ⊢
    rcases h with rfl | h
    · right
      rw [hp]
      exact mem_lineage_self ls p
    · right
      cases hq : parent? ls i with
      | none => simp [hq, lineageFrom] at h
      | some q =>
        rw [hq] at h
        exact ih q (lt_of_parent? ls hq) h

/-- Nothing in a line of ancestors stands between a member and its parent. -/
theorem le_parent?_of_lt {i j c : Nat} (hc : c ∈ lineage ls i) (hj : j ∈ lineage ls i)
    (hlt : j < c) : ∃ p, parent? ls c = some p ∧ j ≤ p := by
  induction i using Nat.strongRecOn with
  | ind i ih =>
    rw [lineage_eq, List.mem_cons] at hc hj
    cases hp : parent? ls i with
    | none =>
      simp only [hp, lineageFrom, List.not_mem_nil, or_false] at hc hj
      omega
    | some p =>
      simp only [hp, lineageFrom] at hc hj
      have hpi := lt_of_parent? ls hp
      rcases hc with rfl | hc
      · rcases hj with rfl | hj
        · omega
        · exact ⟨p, hp, le_of_mem_lineage ls hj⟩
      · rcases hj with rfl | hj
        · have := le_of_mem_lineage ls hc
          omega
        · exact ih p hpi hc hj

/-- The nearest ancestor that is indented less than `k`, looked for from a nearer one. -/
theorem find?_lineage {p : Option Nat} {k l : Nat} (h : l ≤ k) :
    (lineageFrom ls ((lineageFrom ls p).find? fun i => indentAt ls i < k)).find?
      (fun i => indentAt ls i < l) = (lineageFrom ls p).find? fun i => indentAt ls i < l := by
  cases p with
  | none => rfl
  | some i =>
    simp only [lineageFrom]
    induction i using Nat.strongRecOn with
    | ind i ih =>
      rw [lineage_eq ls i]
      by_cases hk : indentAt ls i < k
      · rw [List.find?_cons_of_pos (by simpa using hk)]
        rw [← lineage_eq]
      · have hl : ¬ indentAt ls i < l := by omega
        simp only [List.find?_cons, hk, hl, decide_false]
        cases hp : parent? ls i with
        | none => rfl
        | some j => exact ih j (lt_of_parent? ls hp)

/-! ## One more line -/

variable (x : NodeLine)

theorem indentAt_append {i : Nat} (h : i < ls.length) :
    indentAt (ls ++ [x]) i = indentAt ls i := by
  simp [indentAt, List.getElem?_append_left h]

theorem indentAt_length : indentAt (ls ++ [x]) ls.length = x.indentation := by
  simp [indentAt]

theorem nodeAt_append {i : Nat} (h : i < ls.length) : nodeAt (ls ++ [x]) i = nodeAt ls i := by
  simp [nodeAt, List.getElem?_append_left h]

theorem nodeAt_length : nodeAt (ls ++ [x]) ls.length = x.node := by
  simp [nodeAt]

theorem lastBelow_append (k : Nat) {n : Nat} (h : n ≤ ls.length) :
    lastBelow (ls ++ [x]) k n = lastBelow ls k n := by
  induction n with
  | zero => rfl
  | succ n ih => rw [lastBelow, lastBelow, indentAt_append ls x (by omega), ih (by omega)]

theorem lastBelow_length_append (k : Nat) :
    lastBelow (ls ++ [x]) k (ls ++ [x]).length =
      if x.indentation < k then some ls.length else lastBelow ls k ls.length := by
  rw [List.length_append, List.length_singleton, lastBelow, indentAt_length,
    lastBelow_append ls x k (Nat.le_refl _)]

theorem parent?_append {i : Nat} (h : i < ls.length) : parent? (ls ++ [x]) i = parent? ls i := by
  rw [parent?, parent?, indentAt_append ls x h, lastBelow_append ls x _ (by omega)]

theorem parent?_length :
    parent? (ls ++ [x]) ls.length = lastBelow ls x.indentation ls.length := by
  rw [parent?, indentAt_length, lastBelow_append ls x _ (Nat.le_refl _)]

theorem lineage_append {i : Nat} (h : i < ls.length) : lineage (ls ++ [x]) i = lineage ls i := by
  induction i using Nat.strongRecOn with
  | ind i ih =>
    rw [lineage_eq, lineage_eq, parent?_append ls x h]
    cases hp : parent? ls i with
    | none => rfl
    | some j =>
      have hj := lt_of_parent? ls hp
      rw [lineageFrom, lineageFrom, ih j hj (by omega)]

theorem isKept_append {i : Nat} (h : i < ls.length) : isKept (ls ++ [x]) i = isKept ls i := by
  rw [isKept, isKept, lineage_append ls x h, Bool.eq_iff_iff, List.all_eq_true, List.all_eq_true]
  refine forall₂_congr fun j hj => ?_
  have := le_of_mem_lineage ls hj
  rw [nodeAt_append ls x (by omega)]

theorem keptBelow_append (p : Option Nat) :
    keptBelow (ls ++ [x]) p = keptBelow ls p ++
      if parent? (ls ++ [x]) ls.length = p ∧ isKept (ls ++ [x]) ls.length = true
        then [ls.length] else [] := by
  rw [keptBelow, List.length_append, List.length_singleton, List.range_succ, List.filter_append]
  congr 1
  · refine List.filter_congr fun i hi => ?_
    have hi := List.mem_range.1 hi
    rw [parent?_append ls x hi, isKept_append ls x hi]
  · simp [List.filter_cons]

/-- Lines that the new line is not nested below keep their subtrees, as all do if the new line does
not count. -/
theorem treeAt_append {i : Nat} (hi : i < ls.length)
    (h : isKept (ls ++ [x]) ls.length = true → i ∉ lineage (ls ++ [x]) ls.length) :
    treeAt (ls ++ [x]) i = treeAt ls i := by
  induction hm : ls.length - i using Nat.strongRecOn generalizing i with
  | ind m ih =>
    have hne : ¬ (parent? (ls ++ [x]) ls.length = some i ∧ isKept (ls ++ [x]) ls.length = true) :=
      fun ⟨hp, hk⟩ => h hk (mem_lineage_of_parent? _ (mem_lineage_self _ _) hp)
    have hmap : (keptBelow ls (some i)).map (treeAt (ls ++ [x])) =
        (keptBelow ls (some i)).map (treeAt ls) := by
      refine List.map_congr_left fun j hj => ?_
      obtain ⟨hj, hp, -⟩ := (mem_keptBelow ls).1 hj
      have hij := lt_of_parent? ls hp
      refine ih (ls.length - j) (by omega) hj (fun hk hl => h hk ?_) rfl
      exact mem_lineage_of_parent? _ hl (by rw [parent?_append ls x hj, hp])
    rw [treeAt_eq, treeAt_eq, nodeAt_append ls x hi, keptBelow_append, if_neg hne,
      List.append_nil, hmap]

/-! ## The open nodes -/

/-- The open nodes with their lines, innermost first: `c` is the line whose subtree is next to be
put below the innermost open node, or to the roots, and `p` the line of that node. -/
inductive Spine (roots : List Descriptor) : Option Nat → Option Nat → List OpenNode → Prop
  | nil {c : Option Nat} {js : List Nat} (hbelow : keptBelow ls none = js ++ c.toList)
      (hroots : roots = js.map (treeAt ls)) : Spine roots c none []
  | cons {c : Option Nat} {i : Nat} {js : List Nat} {d : Descriptor} {rest : List OpenNode}
      (hnode : nodeAt ls i = some d) (hbelow : keptBelow ls (some i) = js ++ c.toList)
      (hrest : Spine roots (some i) (parent? ls i) rest) :
      Spine roots c (some i)
        (⟨indentAt ls i, { d with children := d.children ++ js.map (treeAt ls) }⟩ :: rest)

variable {ls} {roots : List Descriptor} {c p : Option Nat} {stack : List OpenNode}

/-- A line whose subtree goes below the innermost open node is nested below its line. -/
theorem Spine.child_mem {i : Nat} (h : Spine ls roots (some i) p stack) :
    i ∈ keptBelow ls p := by
  cases h with
  | nil hbelow => simp [hbelow]
  | cons _ hbelow => simp [hbelow]

/-- The innermost open line counts. -/
theorem Spine.inner_kept {i : Nat} (h : Spine ls roots c (some i) stack) :
    i < ls.length ∧ isKept ls i = true := by
  cases h with
  | cons _ _ hrest =>
    obtain ⟨hi, -, hk⟩ := (mem_keptBelow ls).1 hrest.child_mem
    exact ⟨hi, hk⟩

/-- The nearest ancestor for an indentation is the same with a new line in place. -/
theorem Spine.find?_append (h : Spine ls roots c p stack) (x : NodeLine) (k : Nat) :
    (lineageFrom (ls ++ [x]) p).find? (fun i => indentAt (ls ++ [x]) i < k) =
      (lineageFrom ls p).find? fun i => indentAt ls i < k := by
  cases p with
  | none => rfl
  | some i =>
    obtain ⟨hi, -⟩ := h.inner_kept
    rw [lineageFrom, lineageFrom, lineage_append ls x hi]
    refine List.find?_congr fun j hj => ?_
    have := le_of_mem_lineage ls hj
    rw [indentAt_append ls x (by omega)]

/-- Closing puts the subtrees where they belong and stops at the nearest ancestor for the
indentation. -/
theorem Spine.closeFrom (k : Nat) (h : Spine ls roots c p stack) :
    Spine ls (Outline.closeFrom k roots (c.map (treeAt ls)) stack).roots none
      ((lineageFrom ls p).find? fun i => indentAt ls i < k)
      (Outline.closeFrom k roots (c.map (treeAt ls)) stack).stack := by
  induction h with
  | @nil c js hbelow hroots =>
    refine @Spine.nil _ _ _ (js ++ c.toList) (by simpa using hbelow) ?_
    cases c <;> simp [Outline.closeFrom, hroots]
  | @cons c i js d rest hnode hbelow hrest ih =>
    have htree : ∀ o : Option Nat, (o.map (treeAt ls)).toList = o.toList.map (treeAt ls) := by
      intro o
      cases o <;> rfl
    rw [lineageFrom, lineage_eq]
    by_cases hk : indentAt ls i < k
    · rw [List.find?_cons_of_pos (by simpa using hk)]
      simp only [Outline.closeFrom, hk, if_true, Outline.adopt, List.append_assoc, htree,
        ← List.map_append]
      exact .cons hnode (by simpa using hbelow) hrest
    · rw [List.find?_cons_of_neg (by simpa using hk)]
      have hclosed : Outline.adopt { d with children := d.children ++ js.map (treeAt ls) }
          (c.map (treeAt ls)) = treeAt ls i := by
        simp only [treeAt_eq ls i, Outline.adopt, hnode, Option.getD_some, hbelow, htree,
          List.append_assoc, List.map_append]
      simp only [Outline.closeFrom, hk, if_false, hclosed]
      exact ih

/-- With all nodes closed, the roots are the forest. -/
theorem Spine.forest {o : Outline} (h : Spine ls o.roots none p o.stack) :
    o.forest = forestOf ls := by
  have hclosed := h.closeFrom 0
  have hnone : ((lineageFrom ls p).find? fun i => indentAt ls i < 0) = none := by
    simp [List.find?_eq_none]
  rw [hnone, Outline.stack_closeFrom_zero] at hclosed
  cases hclosed with
  | nil hbelow hroots => simpa [Outline.forest, forestOf, hbelow] using hroots

theorem lt_of_mem_keptBelow_append {js : List Nat} {i j : Nat}
    (h : keptBelow ls p = js ++ [i]) (hj : j ∈ js) : j < i := by
  have hsorted : (keptBelow ls p).Pairwise (· < ·) := List.pairwise_lt_range.filter _
  rw [h, List.pairwise_append] at hsorted
  exact hsorted.2.2 j hj i (List.mem_singleton_self i)

variable {x : NodeLine}

/-- An earlier sibling of an ancestor of the new line is none of its ancestors. -/
theorem not_mem_lineage_of_lt {j i : Nat} (hj : j ∈ keptBelow ls p) (hlt : j < i)
    (hi : i ∈ lineage (ls ++ [x]) ls.length) (hp : parent? (ls ++ [x]) i = p) :
    j ∉ lineage (ls ++ [x]) ls.length := by
  intro hl
  obtain ⟨hj, hpj, -⟩ := (mem_keptBelow ls).1 hj
  obtain ⟨q, hq, hjq⟩ := le_parent?_of_lt _ hi hl hlt
  rw [hq] at hp
  have := lt_of_parent? ls (hpj.trans hp.symm)
  omega

/-- The lines below an ancestor of the new line stay the same up to the one that leads to it. -/
theorem keptBelow_append_of_ancestor {js : List Nat} (hbelow : keptBelow ls p = js ++ c.toList)
    (hc : isKept (ls ++ [x]) ls.length = true →
      ∃ i, c = some i ∧ i ∈ lineage (ls ++ [x]) ls.length) :
    keptBelow (ls ++ [x]) p = js ++ c.toList ∧
      js.map (treeAt ls) = js.map (treeAt (ls ++ [x])) := by
  refine ⟨?_, List.map_congr_left fun j hj => ?_⟩
  · rw [keptBelow_append, hbelow, if_neg, List.append_nil]
    rintro ⟨hp, hk⟩
    obtain ⟨i, rfl, hi⟩ := hc hk
    have hib : i ∈ keptBelow ls p := by simp [hbelow]
    obtain ⟨hin, hpi, -⟩ := (mem_keptBelow ls).1 hib
    obtain ⟨q, hq, hiq⟩ := le_parent?_of_lt _ (mem_lineage_self _ _) hi hin
    have := lt_of_parent? ls (hpi.trans (hp.symm.trans hq))
    omega
  · have hmem : j ∈ keptBelow ls p := by
      rw [hbelow]
      exact List.mem_append_left _ hj
    refine (treeAt_append ls x ((mem_keptBelow ls).1 hmem).1 fun hk => ?_).symm
    obtain ⟨i, rfl, hi⟩ := hc hk
    have hib : i ∈ keptBelow ls p := by simp [hbelow]
    obtain ⟨hin, hpi, -⟩ := (mem_keptBelow ls).1 hib
    exact not_mem_lineage_of_lt hmem (lt_of_mem_keptBelow_append hbelow hj) hi
      (by rw [parent?_append ls x hin, hpi])

/-- A line that counts comes last below its parent. -/
theorem keptBelow_append_of_parent {js : List Nat} (hbelow : keptBelow ls p = js)
    (hp : parent? (ls ++ [x]) ls.length = p) (hk : isKept (ls ++ [x]) ls.length = true) :
    keptBelow (ls ++ [x]) p = js ++ [ls.length] ∧
      js.map (treeAt ls) = js.map (treeAt (ls ++ [x])) := by
  refine ⟨by rw [keptBelow_append, hbelow, if_pos ⟨hp, hk⟩], List.map_congr_left fun j hj => ?_⟩
  rw [← hbelow] at hj
  have hjn := ((mem_keptBelow ls).1 hj).1
  exact (treeAt_append ls x hjn fun _ =>
    not_mem_lineage_of_lt hj hjn (mem_lineage_self _ _) hp).symm

/-- The open nodes stay as they are if the new line does not count, and so do those outside of a
line that the new line is nested below. -/
theorem Spine.append (h : Spine ls roots c p stack)
    (hc : isKept (ls ++ [x]) ls.length = true →
      ∃ i, c = some i ∧ i ∈ lineage (ls ++ [x]) ls.length) :
    Spine (ls ++ [x]) roots c p stack := by
  induction h with
  | nil hbelow hroots =>
    obtain ⟨hb, hm⟩ := keptBelow_append_of_ancestor hbelow hc
    exact .nil hb (hroots.trans hm)
  | @cons c i js d rest hnode hbelow hrest ih =>
    obtain ⟨hb, hm⟩ := keptBelow_append_of_ancestor hbelow hc
    have hi : i < ls.length := ((mem_keptBelow ls).1 hrest.child_mem).1
    rw [hm, ← indentAt_append ls x hi]
    refine .cons (by rw [nodeAt_append ls x hi, hnode]) hb ?_
    rw [parent?_append ls x hi]
    refine ih fun hk => ⟨i, rfl, ?_⟩
    obtain ⟨j, rfl, hj⟩ := hc hk
    have hjb : j ∈ keptBelow ls (some i) := by simp [hbelow]
    obtain ⟨hjn, hpj, -⟩ := (mem_keptBelow ls).1 hjb
    exact mem_lineage_of_parent? _ hj (by rw [parent?_append ls x hjn, hpj])

/-- A line that counts opens its node below the innermost open one. -/
theorem Spine.push {d : Descriptor} (h : Spine ls roots none p stack) (hx : x.node = some d)
    (hp : parent? (ls ++ [x]) ls.length = p) (hk : isKept (ls ++ [x]) ls.length = true) :
    Spine (ls ++ [x]) roots none (some ls.length) (⟨x.indentation, d⟩ :: stack) := by
  have hempty : keptBelow (ls ++ [x]) (some ls.length) = [] := by
    rw [List.eq_nil_iff_forall_not_mem]
    intro j hj
    obtain ⟨hj, hpj, -⟩ := (mem_keptBelow _).1 hj
    have := lt_of_parent? _ hpj
    simp at hj
    omega
  have hnew : Spine (ls ++ [x]) roots (some ls.length) p stack := by
    cases h with
    | nil hbelow hroots =>
      obtain ⟨hb, hm⟩ := keptBelow_append_of_parent hbelow hp hk
      exact .nil (by simpa using hb) (by simpa using (hroots.trans (by simpa using hm)))
    | @cons _ i js d rest hnode hbelow hrest =>
      obtain ⟨hb, hm⟩ := keptBelow_append_of_parent hbelow hp hk
      have hi : i < ls.length := ((mem_keptBelow ls).1 hrest.child_mem).1
      simp only [Option.toList_none, List.append_nil] at hb hm
      rw [hm, ← indentAt_append ls x hi]
      refine .cons (by rw [nodeAt_append ls x hi, hnode]) (by simpa using hb) ?_
      rw [parent?_append ls x hi]
      refine hrest.append fun _ => ⟨i, rfl, ?_⟩
      exact mem_lineage_of_parent? _ (mem_lineage_self _ _) hp
  have hopen := @Spine.cons (ls ++ [x]) _ none _ [] d _
    (by rw [nodeAt_length, hx]) (by simpa using hempty) (hp ▸ hnew)
  rw [indentAt_length, List.map_nil, List.append_nil] at hopen
  cases d
  exact hopen

/-! ## The state of a reading -/

variable (ls) in
/-- What the state of a reading says about the node lines read so far: `p` is the innermost open
line, and `skippedAt` the indentation of the last line that failed, if no later line ended it. -/
structure Tracks (p : Option Nat) (o : Outline) (skippedAt : Option Nat) : Prop where
  /-- The open nodes and the roots make up the forest. -/
  spine : Spine ls o.roots none p o.stack
  /-- The parent of a next line is open, unless that line is nested below a failed one. -/
  near : ∀ k, skippedAt.any (· < k) = false →
    lastBelow ls k ls.length = (lineageFrom ls p).find? fun i => indentAt ls i < k
  /-- A next line that is nested below a failed one has a parent that does not count. -/
  lost : ∀ k, skippedAt.any (· < k) = true →
    ∃ j, lastBelow ls k ls.length = some j ∧ isKept ls j = false

namespace Tracks

variable {o : Outline} {skippedAt : Option Nat}

theorem start : Tracks [] none .empty none where
  spine := @Spine.nil _ _ none [] rfl rfl
  near _ _ := rfl
  lost _ h := by simp at h

/-- The new line counts if it stands for a node and is not nested below a failed one. -/
theorem isKept_length (h : Tracks ls p o skippedAt) :
    isKept (ls ++ [x]) ls.length = (x.node.isSome && !skippedAt.any (· < x.indentation)) := by
  rw [isKept_eq, nodeAt_length, parent?_length]
  congr 1
  cases hs : skippedAt.any (· < x.indentation) with
  | true =>
    obtain ⟨j, hj, hk⟩ := h.lost _ hs
    rw [hj]
    exact (isKept_append ls x (lt_of_lastBelow ls hj).1).trans hk
  | false =>
    have hspine := h.spine.closeFrom x.indentation
    rw [h.near _ hs]
    generalize (lineageFrom ls p).find? (fun i => indentAt ls i < x.indentation) = q at hspine ⊢
    cases q with
    | none => rfl
    | some i =>
      obtain ⟨hi, hk⟩ := hspine.inner_kept
      exact (isKept_append ls x hi).trans hk

/-- A line nested below a failed one does not count. -/
theorem skip (h : Tracks ls p o skippedAt) (hx : skippedAt.any (· < x.indentation) = true) :
    Tracks (ls ++ [x]) p o skippedAt := by
  have hlost : isKept (ls ++ [x]) ls.length = false := by
    rw [h.isKept_length, hx, Bool.not_true, Bool.and_false]
  obtain ⟨f, rfl, hf⟩ := (Option.any_eq_true _ _).1 hx
  simp only [decide_eq_true_eq] at hf
  refine ⟨h.spine.append fun hk => absurd hk (by simp [hlost]), fun k hk => ?_, fun k hk => ?_⟩
  · have hkf : k ≤ f := by simpa using hk
    rw [lastBelow_length_append, if_neg (by omega), h.spine.find?_append, h.near k hk]
  · rw [lastBelow_length_append]
    by_cases hxk : x.indentation < k
    · exact ⟨ls.length, if_pos hxk, hlost⟩
    · obtain ⟨j, hj, hjk⟩ := h.lost k hk
      exact ⟨j, by rw [if_neg hxk, hj], by rw [isKept_append ls x (lt_of_lastBelow ls hj).1, hjk]⟩

/-- A line that fails does not count, and the lines nested below it will not either. -/
theorem fail (h : Tracks ls p o skippedAt) (hx : skippedAt.any (· < x.indentation) = false)
    (hn : x.node = none) : Tracks (ls ++ [x]) p o (some x.indentation) := by
  have hlost : isKept (ls ++ [x]) ls.length = false := by
    rw [h.isKept_length, hn, Option.isSome_none, Bool.false_and]
  refine ⟨h.spine.append fun hk => absurd hk (by simp [hlost]), fun k hk => ?_, fun k hk => ?_⟩
  · have hkx : k ≤ x.indentation := by simpa using hk
    have hks : skippedAt.any (· < k) = false := by
      cases skippedAt with
      | none => rfl
      | some f =>
        simp only [Option.any_some, decide_eq_false_iff_not] at hx ⊢
        omega
    rw [lastBelow_length_append, if_neg (by omega), h.spine.find?_append, h.near k hks]
  · have hxk : x.indentation < k := by simpa using hk
    exact ⟨ls.length, by rw [lastBelow_length_append, if_pos hxk], hlost⟩

/-- A line that stands for a node counts if it is not nested below a failed one. -/
theorem attach {d : Descriptor} (h : Tracks ls p o skippedAt)
    (hx : skippedAt.any (· < x.indentation) = false) (hn : x.node = some d) :
    Tracks (ls ++ [x]) (some ls.length) (o.attach x.indentation d) none := by
  have hkept : isKept (ls ++ [x]) ls.length = true := by
    rw [h.isKept_length, hn, hx]
    rfl
  have hparent : parent? (ls ++ [x]) ls.length =
      (lineageFrom ls p).find? fun i => indentAt ls i < x.indentation := by
    rw [parent?_length, h.near _ hx]
  have hspine := h.spine.closeFrom x.indentation
  refine ⟨hspine.push hn hparent hkept, fun k _ => ?_, fun k hk => by simp at hk⟩
  rw [lastBelow_length_append, lineageFrom, lineage_eq]
  by_cases hxk : x.indentation < k
  · rw [if_pos hxk, List.find?_cons_of_pos (by simpa [indentAt_length] using hxk)]
  · have hks : skippedAt.any (· < k) = false := by
      cases skippedAt with
      | none => rfl
      | some f =>
        simp only [Option.any_some, decide_eq_false_iff_not] at hx ⊢
        omega
    rw [if_neg hxk, List.find?_cons_of_neg (by simpa [indentAt_length] using hxk), hparent,
      hspine.find?_append, find?_lineage ls (by omega), h.near k hks]

end Tracks

end LayoutTree.Layout.Nesting

namespace LayoutTree.TextFormat

open LayoutTree.Text LayoutTree.Layout LayoutTree.Layout.Nesting

/-! ## Node lines of a source -/

/-- The node lines among the lines of a file, each with the node that it describes in the state that
the lines before it lead to. -/
def nodeLines (env : Surroundings) (file : FilePath) (state : Reading) :
    List (List Char) → List NodeLine
  | [] => []
  | line :: rest =>
    let others := nodeLines env file (readLine env file state line).state rest
    match Line.classify state.defaultsType.isSome (trim line) with
    | .node text => ⟨indentation line, (readNode env file state text).2.toOption⟩ :: others
    | _ => others

variable (env : Surroundings) (file : FilePath)

/-- What a node line does to the open nodes and to the mark of the failed line. -/
theorem tracks_readNodeLine {ls : List NodeLine} {state : Reading} {p : Option Nat} (indent : Nat)
    (text : List Char) (h : Tracks ls p state.outline state.skippedAt) :
    ∃ q, Tracks (ls ++ [⟨indent, (readNode env file state text).2.toOption⟩]) q
      (readNodeLine env file state indent text).state.outline
      (readNodeLine env file state indent text).state.skippedAt := by
  rw [readNodeLine]
  cases hs : state.skippedAt.any (· < indent) with
  | true => exact ⟨p, h.skip hs⟩
  | false =>
    rcases hr : readNode env file state text with ⟨log, fault | d⟩
    · exact ⟨p, h.fail hs rfl⟩
    · exact ⟨_, h.attach hs rfl⟩

/-- Lines other than node lines leave the open nodes and the mark of the failed line alone. -/
theorem readLine_of_not_node {state : Reading} {line : List Char}
    (h : ∀ text, Line.classify state.defaultsType.isSome (trim line) = .node text → False) :
    (readLine env file state line).state.outline = state.outline ∧
      (readLine env file state line).state.skippedAt = state.skippedAt := by
  rw [readLine]
  cases hc : Line.classify state.defaultsType.isSome (trim line) with
  | ignored => exact ⟨rfl, rfl⟩
  | group name =>
    dsimp only
    split <;> exact ⟨rfl, rfl⟩
  | defaultsOf type =>
    dsimp only
    split <;> exact ⟨rfl, rfl⟩
  | default entry =>
    dsimp only
    split <;> exact ⟨rfl, rfl⟩
  | node text => exact absurd hc (h text)

/-- The lines of a file keep the invariant. -/
theorem tracks_readLines (number : Nat) (lines : List (List Char)) {ls : List NodeLine}
    {state : Reading} {p : Option Nat} (h : Tracks ls p state.outline state.skippedAt) :
    ∃ q, Tracks (ls ++ nodeLines env file state lines) q
      (readLines env file number state lines).1.outline
      (readLines env file number state lines).1.skippedAt := by
  induction lines generalizing number ls state p with
  | nil => exact ⟨p, by simpa [nodeLines, readLines] using h⟩
  | cons line rest ih =>
    rw [readLines, nodeLines]
    dsimp only
    split
    · next text ht =>
      have hline : readLine env file state line =
          readNodeLine env file state (indentation line) text := by
        rw [readLine, ht]
      obtain ⟨q, hq⟩ := tracks_readNodeLine env file (indentation line) text h
      rw [← hline] at hq
      obtain ⟨q', hq'⟩ := ih (number + 1) hq
      exact ⟨q', by simpa using hq'⟩
    · next hn =>
      obtain ⟨ho, hs⟩ := readLine_of_not_node env file hn
      rw [← ho, ← hs] at h
      exact ih (number + 1) h

/-- **A source stands for the forest of its node lines**: a line counts unless it or a line that it
is nested below fails, it comes below its indentation parent, and siblings keep the order of the
source, after the nodes that their parent has from other files. -/
theorem forest_readLines (number : Nat) (lines : List (List Char)) :
    (readLines env file number .start lines).1.outline.forest =
      forestOf (nodeLines env file .start lines) := by
  have hstart : Tracks [] none Reading.start.outline Reading.start.skippedAt := Tracks.start
  obtain ⟨q, hq⟩ := tracks_readLines env file number lines hstart
  exact hq.spine.forest

end LayoutTree.TextFormat
