import LayoutTree.Proofs.Files.Naming
import Mathlib.Data.List.Induction

/-!
# Trimming and cutting

A trimmed text has no blanks at its ends (`trim_trim`). What stands between separators and is then
trimmed is the same whether blanks were trimmed off the end of the whole text before or not
(`map_trim_splitAt_trimEnd`), because a separator that is not a blank is not trimmed off.
-/

namespace LayoutTree.Text

/-! ## Trimming -/

/-- Blanks at the end are trimmed off up to a character that is none. -/
theorem trimEnd_append {s : List Char} {c : Char} (hc : isBlank c = false) (t : List Char) :
    trimEnd (s ++ c :: t) = s ++ c :: trimEnd t := by
  rw [trimEnd, List.reverse_append, List.reverse_cons, List.append_assoc, List.singleton_append,
    List.dropWhile_append, List.dropWhile_cons_of_neg (by simp [hc]), trimEnd]
  split
  · next hnil =>
    rw [List.isEmpty_iff.1 hnil, List.reverse_cons, List.reverse_reverse]
    rfl
  · rw [List.reverse_append, List.reverse_cons, List.reverse_reverse, List.append_assoc]
    rfl

theorem trimEnd_cons {c : Char} (hc : isBlank c = false) (t : List Char) :
    trimEnd (c :: t) = c :: trimEnd t :=
  trimEnd_append (s := []) hc t

theorem trimEnd_concat_blank {c : Char} (hc : isBlank c = true) (s : List Char) :
    trimEnd (s ++ [c]) = trimEnd s := by
  rw [trimEnd, List.reverse_append, List.reverse_singleton, List.singleton_append,
    List.dropWhile_cons_of_pos hc, trimEnd]

theorem trimEnd_concat_of_not_blank {c : Char} (hc : isBlank c = false) (s : List Char) :
    trimEnd (s ++ [c]) = s ++ [c] :=
  trimEnd_append hc []

theorem trim_concat_blank {c : Char} (hc : isBlank c = true) (s : List Char) :
    trim (s ++ [c]) = trim s := by
  rw [trim, trim, trimStart, trimStart, List.dropWhile_append]
  split
  · next hnil => rw [List.isEmpty_iff.1 hnil, List.dropWhile_cons_of_pos hc, List.dropWhile_nil]
  · exact trimEnd_concat_blank hc _

/-- A text without the blanks at its start is empty or starts with another character. -/
theorem trimStart_eq_nil_or (s : List Char) :
    trimStart s = [] ∨ ∃ c r, trimStart s = c :: r ∧ isBlank c = false := by
  cases hs : trimStart s with
  | nil => exact .inl rfl
  | cons c r =>
    have hhead := List.head?_dropWhile_not isBlank s
    rw [← trimStart, hs] at hhead
    exact .inr ⟨c, r, rfl, hhead⟩

theorem trim_trim (s : List Char) : trim (trim s) = trim s := by
  rw [trim, trim]
  rcases trimStart_eq_nil_or s with hnil | ⟨c, r, hcons, hc⟩
  · rw [hnil]
    rfl
  · rw [hcons, trimEnd_cons hc, trimStart_cons_of_not_blank _ hc, ← trimEnd_cons hc,
      trimEnd_trimEnd]

/-- A trimmed text does not start with a blank. -/
theorem isBlank_of_head?_trim {s : List Char} {c : Char} (h : (trim s).head? = some c) :
    isBlank c = false := by
  rw [trim] at h
  rcases trimStart_eq_nil_or s with hnil | ⟨d, r, hcons, hd⟩
  · rw [hnil] at h
    cases h
  · rw [hcons, trimEnd_cons hd] at h
    exact Option.some.inj h ▸ hd

/-! ## Cutting at separators -/

/-- A character that is no separator goes to the last piece. -/
theorem exists_splitAt_concat {sep c : Char} (hc : c ≠ sep) (s : List Char) :
    ∃ ws w, splitAt sep s = ws ++ [w] ∧ splitAt sep (s ++ [c]) = ws ++ [w ++ [c]] := by
  induction s with
  | nil => exact ⟨[], [], rfl, by simp [splitAt, hc]⟩
  | cons d s ih =>
    obtain ⟨ws, w, hs, hsc⟩ := ih
    rw [List.cons_append, splitAt, splitAt, hs, hsc]
    by_cases hd : d = sep
    · rw [if_pos hd, if_pos hd]
      exact ⟨[] :: ws, w, rfl, rfl⟩
    · rw [if_neg hd, if_neg hd]
      cases ws with
      | nil => exact ⟨[], d :: w, rfl, rfl⟩
      | cons v ws => exact ⟨(d :: v) :: ws, w, rfl, rfl⟩

theorem splitAt_append (sep : Char) (s t : List Char) :
    splitAt sep (s ++ sep :: t) = splitAt sep s ++ splitAt sep t := by
  induction s with
  | nil => simp [splitAt]
  | cons c s ih =>
    rw [List.cons_append, splitAt, splitAt, ih]
    split
    · rfl
    · cases hs : splitAt sep s with
      | nil => exact absurd hs (splitAt_ne_nil sep s)
      | cons w ws => rfl

theorem splitAt_of_notMem {sep : Char} {s : List Char} (h : sep ∉ s) : splitAt sep s = [s] := by
  induction s with
  | nil => rfl
  | cons c s ih =>
    rw [List.mem_cons, not_or] at h
    rw [splitAt, if_neg (Ne.symm h.1), ih h.2]

/-- The pieces of a joined text are its parts. -/
theorem splitAt_joinWith {sep : Char} {parts : List String} (hne : parts ≠ [])
    (h : ∀ part ∈ parts, sep ∉ part.toList) :
    splitAt sep (joinWith (String.singleton sep) parts).toList = parts.map String.toList := by
  rw [joinWith, String.toList_intercalate, String.toList_singleton, splitAt_eq_splitOn]
  exact List.splitOn_intercalate sep (List.forall_mem_map.2 h) (by simpa using hne)

theorem map_trim_splitAt_trimEnd {sep : Char} (hsep : isBlank sep = false) (s : List Char) :
    (splitAt sep (trimEnd s)).map trim = (splitAt sep s).map trim := by
  induction s using List.reverseRecOn with
  | nil => rfl
  | append_singleton s c ih =>
    by_cases hc : isBlank c = true
    · have hne : c ≠ sep := by
        rintro rfl
        exact absurd hc (by simp [hsep])
      obtain ⟨ws, w, hs, hsc⟩ := exists_splitAt_concat hne s
      rw [trimEnd_concat_blank hc, ih, hs, hsc, List.map_append, List.map_append,
        List.map_singleton, List.map_singleton, trim_concat_blank hc]
    · rw [trimEnd_concat_of_not_blank (eq_false_of_ne_true hc)]

end LayoutTree.Text
