import LayoutTree.Text.Case
import Mathlib.Data.List.Basic

/-!
# Upper case and folded case

A character folds to what its upper case folds to, so that a word with a capital initial is the same
name as the word without. There is one exception (`fold_upper_singleton_iff`): the upper case of a
dotless i is the capital I, and that folds to the i with a dot.

Both mappings are tables, and the proof goes through the runs and the expansions of the one and
looks up what they lead to in the other.
-/

namespace LayoutTree.Text

namespace CaseRun

/-- The number of code points of a run. -/
def count (r : CaseRun) : Nat := (r.last - r.first) / r.step + 1

/-- A code point of a run by its index. -/
def point (r : CaseRun) (i : Nat) : Nat := r.first + r.step * i

/-- Where the mapping moves a code point of a run. -/
def image (r : CaseRun) (n : Nat) : Nat := ((n : Int) + r.shift).toNat

theorem exists_point_of_covers {r : CaseRun} {n : Nat} (h : r.covers n = true) :
    ∃ i < r.count, n = r.point i := by
  simp only [covers, Bool.and_eq_true, decide_eq_true_eq, beq_iff_eq] at h
  obtain ⟨⟨hfirst, hlast⟩, hstep⟩ := h
  have hindex := Nat.div_add_mod (n - r.first) r.step
  have hcount : (n - r.first) / r.step ≤ (r.last - r.first) / r.step :=
    Nat.div_le_div_right (Nat.sub_le_sub_right hlast _)
  exact ⟨(n - r.first) / r.step, Nat.lt_succ_of_le hcount, by rw [point]; omega⟩

end CaseRun

namespace CaseMap

/-! ## Looking up from a code point on -/

/-- A mapping without what lies before a code point. -/
def startingAt (m : CaseMap) (lo : Nat) : CaseMap where
  runs := m.runs.dropWhile fun r => r.last < lo
  expansions := m.expansions.dropWhile fun e => e.1 < lo

theorem shift?_dropWhile {runs : List CaseRun} (hruns : ∀ r ∈ runs, r.first ≤ r.last) {lo n : Nat}
    (h : lo ≤ n) : shift? (runs.dropWhile fun r => r.last < lo) n = shift? runs n := by
  induction runs with
  | nil => rfl
  | cons r runs ih =>
    obtain ⟨hr, hruns⟩ := List.forall_mem_cons.1 hruns
    by_cases hlast : r.last < lo
    · have hcovers : ¬ r.covers n = true := fun hcovers => by
        have := r.bounds_of_covers hcovers
        omega
      rw [List.dropWhile_cons_of_pos (by simpa using hlast), ih hruns, shift?,
        if_neg (by omega), if_neg hcovers]
    · rw [List.dropWhile_cons_of_neg (by simpa using hlast)]

theorem expansion?_dropWhile (expansions : List (Nat × List Nat)) {lo n : Nat} (h : lo ≤ n) :
    expansion? (expansions.dropWhile fun e => e.1 < lo) n = expansion? expansions n := by
  induction expansions with
  | nil => rfl
  | cons e expansions ih =>
    by_cases hkey : e.1 < lo
    · rw [List.dropWhile_cons_of_pos (by simpa using hkey), ih, expansion?,
        if_neg (by omega), if_neg (by omega)]
    · rw [List.dropWhile_cons_of_neg (by simpa using hkey)]

/-- What lies before a code point does not matter for it. -/
theorem applyNat_startingAt {m : CaseMap} (hruns : ∀ r ∈ m.runs, r.first ≤ r.last) {lo n : Nat}
    (h : lo ≤ n) : (m.startingAt lo).applyNat n = m.applyNat n := by
  rw [applyNat, startingAt, shift?_dropWhile hruns h, expansion?_dropWhile _ h, applyNat]

end CaseMap

/-! ## Folding an upper case -/

theorem fold_flatMap (f : List Char → List Char) (ws : List (List Char)) :
    fold (ws.flatMap f) = ws.flatMap fun w => fold (f w) := by
  rw [fold, List.flatMap_assoc]
  rfl

/-- The dotless i. -/
def dotlessI : Char := 'ı'

/-- The code points of a run fold as their images do, but for the dotless i. The table is looked up
from the first code point of the run and from the image of that on. -/
theorem fold_image : ∀ r ∈ upperMap.runs, ∀ i < r.count, r.point i ≠ dotlessI.toNat →
    (foldMap.startingAt (r.image r.first)).applyNat (r.image (r.point i)) =
      (foldMap.startingAt r.first).applyNat (r.point i) := by
  decide +kernel

theorem fold_expansion : ∀ e ∈ upperMap.expansions,
    e.2.flatMap (fun n => (foldMap.startingAt n).applyNat n) =
      (foldMap.startingAt e.1).applyNat e.1 := by
  decide +kernel

theorem applyNat_foldMap {lo n : Nat} (h : lo ≤ n) :
    (foldMap.startingAt lo).applyNat n = foldMap.applyNat n :=
  CaseMap.applyNat_startingAt (by decide +kernel) h

theorem flatMap_upperMap {n : Nat} (h : n ≠ dotlessI.toNat) :
    (upperMap.applyNat n).flatMap foldMap.applyNat = foldMap.applyNat n := by
  rcases upperMap.applyNat_cases n with ⟨r, hr, hcovers, happly⟩ | ⟨v, hv, happly⟩ | happly
  · obtain ⟨i, hi, rfl⟩ := CaseRun.exists_point_of_covers hcovers
    have hpoint : r.first ≤ r.point i := (CaseRun.bounds_of_covers hcovers).1
    have himage : r.image r.first ≤ r.image (r.point i) := by
      simp only [CaseRun.image]
      omega
    have hfold := fold_image r hr i hi h
    rw [applyNat_foldMap himage, applyNat_foldMap hpoint] at hfold
    rw [happly, List.flatMap_singleton]
    exact hfold
  · have hfold := fold_expansion _ hv
    simp only [applyNat_foldMap (Nat.le_refl _)] at hfold
    rw [happly]
    exact hfold
  · rw [happly, List.flatMap_singleton]

/-- What upper case leads to are code points of characters. -/
theorem isValidChar_of_mem_upperMap {c : Char} {n : Nat} (h : n ∈ upperMap.applyNat c.toNat) :
    n.isValidChar := by
  have hruns : ∀ r ∈ upperMap.runs, 0 ≤ (r.first : Int) + r.shift ∧
      ((r.last : Int) + r.shift < 0xd800 ∨
        0xdfff < (r.first : Int) + r.shift ∧ (r.last : Int) + r.shift < 0x110000) := by
    decide +kernel
  have hexpansions : ∀ e ∈ upperMap.expansions, ∀ k ∈ e.2, k.isValidChar := by decide +kernel
  rcases upperMap.applyNat_cases c.toNat with ⟨r, hr, hcovers, happly⟩ | ⟨v, hv, happly⟩ | happly
  · obtain ⟨hfirst, hlast⟩ := CaseRun.bounds_of_covers hcovers
    have := hruns r hr
    rw [happly, List.mem_singleton] at h
    rw [Nat.isValidChar]
    omega
  · exact hexpansions _ hv n (happly ▸ h)
  · rw [happly, List.mem_singleton] at h
    exact h ▸ c.valid

/-- **A character folds to what its upper case folds to**, unless it is the dotless i. -/
theorem fold_upper_singleton_iff {c : Char} : fold (upper [c]) = fold [c] ↔ c ≠ dotlessI := by
  refine ⟨?_, fun h => ?_⟩
  · rintro h rfl
    exact absurd h (by decide +kernel)
  · have hcode : c.toNat ≠ dotlessI.toNat := fun heq => h (Char.toNat_inj.1 heq)
    have hvalid : ∀ n ∈ upperMap.applyNat c.toNat,
        foldChar (Char.ofNat n) = (foldMap.applyNat n).map Char.ofNat := fun n hn => by
      have hchar : (Char.ofNat n).toNat = n :=
        congrArg Char.toNat (dif_pos (isValidChar_of_mem_upperMap hn))
      rw [foldChar, CaseMap.apply, hchar]
    calc
      fold (upper [c]) = (upperMap.applyNat c.toNat).flatMap fun n => foldChar (Char.ofNat n) := by
        rw [fold, upper, List.flatMap_singleton, CaseMap.apply, List.flatMap_map]
      _ = (upperMap.applyNat c.toNat).flatMap fun n => (foldMap.applyNat n).map Char.ofNat :=
        List.flatMap_congr hvalid
      _ = ((upperMap.applyNat c.toNat).flatMap foldMap.applyNat).map Char.ofNat :=
        List.map_flatMap.symm
      _ = fold [c] := by
        rw [flatMap_upperMap hcode, fold, List.flatMap_singleton, foldChar, CaseMap.apply]

end LayoutTree.Text
