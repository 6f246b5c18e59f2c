import LayoutTree.Files.Path

/-!
# Paths and their text

A path whose names are those of a written path (`FilePath.IsNormal`) can be read back from its text
(`IsNormal.ofString_text`), so two such paths with the same text are the same path. Written paths
are normal, and so are the paths that are put together from them.
-/

namespace LayoutTree

open LayoutTree.Text

namespace Text

theorem splitAt_eq_splitOn (sep : Char) (s : List Char) : splitAt sep s = s.splitOn sep := by
  induction s with
  | nil => rfl
  | cons c s ih =>
    rw [splitAt, ih, List.splitOn, List.splitOn, List.splitOnP_cons_eq_if_modifyHead]
    by_cases hc : c = sep
    · simp [hc]
    · rw [if_neg hc, if_neg (by simpa using hc)]
      cases hs : s.splitOnP (· == sep) with
      | nil => exact absurd hs (List.splitOnP_ne_nil _ _)
      | cons w ws => rfl

theorem notMem_of_mem_splitAt {sep : Char} {s : List Char} :
    ∀ part ∈ splitAt sep s, sep ∉ part := by
  induction s with
  | nil => simp [splitAt]
  | cons c s ih =>
    rw [splitAt]
    split
    · simpa using ih
    · next hc =>
      cases hs : splitAt sep s with
      | nil => exact absurd hs (splitAt_ne_nil sep s)
      | cons w ws =>
        rw [hs] at ih
        simp only [List.forall_mem_cons] at ih ⊢
        exact ⟨by simpa [Ne.symm hc] using ih.1, ih.2⟩

/-- The pieces of a text joined are the text without the separators. -/
theorem flatten_splitAt (sep : Char) (s : List Char) : (splitAt sep s).flatten = without sep s := by
  induction s with
  | nil => rfl
  | cons c s ih =>
    rw [splitAt, without, List.filter_cons]
    by_cases hc : c = sep
    · rw [if_pos hc, if_neg (by simpa using hc), List.flatten_cons, List.nil_append, ih, without]
    · rw [if_neg hc, if_pos (by simpa using hc)]
      cases hs : splitAt sep s with
      | nil => exact absurd hs (splitAt_ne_nil sep s)
      | cons w ws =>
        rw [hs] at ih
        exact congrArg (c :: ·) ih

end Text

namespace FilePath

/-- The names of a path are those of a written path: they are not empty, do not stand for the
directory that they are in, and hold no slash. -/
def IsNormal (p : FilePath) : Prop :=
  ∀ part ∈ p.parts, (part ≠ "" ∧ part ≠ ".") ∧ '/' ∉ part.toList

theorem isNormal_ofString (s : String) : (ofString s).IsNormal := by
  intro part hpart
  obtain ⟨hmem, hkept⟩ := List.mem_filter.1 hpart
  obtain ⟨w, hw, rfl⟩ := List.mem_map.1 hmem
  refine ⟨by simpa using hkept, ?_⟩
  rw [String.toList_ofList]
  exact notMem_of_mem_splitAt w hw

/-! ## Reading back -/

/-- The names in a text between slashes. -/
def namesIn (s : List Char) : List String :=
  ((splitAt '/' s).map String.ofList).filter fun part => part ≠ "" ∧ part ≠ "."

theorem ofString_eq (s : String) : ofString s = ⟨rootOf s.toList, namesIn s.toList⟩ := rfl

theorem toList_joinWith (parts : List String) :
    (joinWith "/" parts).toList = ['/'].intercalate (parts.map String.toList) :=
  String.toList_intercalate

section Parts

variable {parts : List String}
  (h : ∀ part ∈ parts, (part ≠ "" ∧ part ≠ ".") ∧ '/' ∉ part.toList)
include h

theorem namesIn_joinWith : namesIn (joinWith "/" parts).toList = parts := by
  cases parts with
  | nil => rfl
  | cons part rest =>
    have hsplit : splitAt '/' (joinWith "/" (part :: rest)).toList =
        (part :: rest).map String.toList := by
      rw [toList_joinWith, splitAt_eq_splitOn, List.splitOn_intercalate]
      · exact List.forall_mem_map.2 fun other hother => (h other hother).2
      · simp
    have hmap : ((part :: rest).map String.toList).map String.ofList = part :: rest := by
      simp [Function.comp_def]
    rw [namesIn, hsplit, hmap, List.filter_eq_self]
    exact fun other hother => by simpa using (h other hother).1

theorem head?_joinWith_ne : (joinWith "/" parts).toList.head? ≠ some '/' := by
  rw [toList_joinWith]
  cases parts with
  | nil => simp [List.intercalate]
  | cons part rest =>
    obtain ⟨⟨hne, -⟩, hslash⟩ := h part List.mem_cons_self
    obtain ⟨c, s, hpart⟩ := List.exists_cons_of_ne_nil (mt String.toList_eq_nil_iff.1 hne)
    have hc : c ≠ '/' := fun heq => hslash (by simp [hpart, heq])
    cases rest with
    | nil => simpa [List.intercalate, hpart] using hc
    | cons other rest => simpa [List.intercalate, hpart] using hc

end Parts

theorem rootOf_rootText_append {root : PathRoot} {s : List Char} (hs : s.head? ≠ some '/') :
    rootOf ((rootText root).toList ++ s) = root := by
  cases s with
  | nil => cases root <;> rfl
  | cons c s =>
    have hc : c ≠ '/' := fun heq => hs (by simp [heq])
    cases root with
    | relative =>
      change rootOf (c :: s) = _
      rw [rootOf]
      all_goals simp [hc]
    | absolute =>
      change rootOf ('/' :: c :: s) = _
      rw [rootOf]
      all_goals simp [hc]
    | doubled =>
      change rootOf ('/' :: '/' :: c :: s) = _
      rw [rootOf]
      all_goals simp [hc]

namespace IsNormal

variable {p q : FilePath}

theorem parent (h : p.IsNormal) : p.parent.IsNormal :=
  fun part hpart => h part (List.dropLast_subset _ hpart)

theorem join (hp : p.IsNormal) (hq : q.IsNormal) : (p.join q).IsNormal := by
  rw [FilePath.join]
  split
  · exact hq
  · exact fun part hpart => (List.mem_append.1 hpart).elim (hp part) (hq part)

/-- **A normal path is what its text says.** -/
theorem ofString_text (h : p.IsNormal) : ofString p.text = p := by
  obtain ⟨root, parts⟩ := p
  rw [text]
  split
  · next hempty =>
    obtain ⟨rfl, rfl⟩ : root = .relative ∧ parts = [] := hempty
    rfl
  · have hnames : namesIn ((rootText root).toList ++ (joinWith "/" parts).toList) = parts := by
      cases root <;> exact namesIn_joinWith h
    rw [ofString_eq, String.toList_append, rootOf_rootText_append (head?_joinWith_ne h), hnames]

theorem eq_of_text (hp : p.IsNormal) (hq : q.IsNormal) (h : p.text = q.text) : p = q := by
  rw [← hp.ofString_text, h, hq.ofString_text]

/-- The text of a normal path is not empty. -/
theorem isEmpty_text (h : p.IsNormal) : p.text.isEmpty = false := by
  rw [← Bool.not_eq_true, String.isEmpty_iff]
  intro hempty
  have hp := h.ofString_text
  rw [hempty] at hp
  rw [← hp] at hempty
  exact absurd hempty (by decide)

end IsNormal

end FilePath

end LayoutTree
