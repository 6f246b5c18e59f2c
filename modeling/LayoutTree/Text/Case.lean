import LayoutTree.Text.CaseTable
import LayoutTree.Text.CasedTable

/-!
# Case mappings

Folded, lower and upper case over the tables of `CaseTable`. Names are compared in folded case:
`fold` is the key under which types, properties and colours are looked up. The main statements say
that the mappings work character by character (`fold_append`, `upper_append`), what they do to a code
point (`CaseMap.applyNat_cases`), and what they do to ASCII.
-/

namespace LayoutTree.Text

namespace CaseMap

/-- The shift of the run that covers a code point, in a list of runs in increasing order. -/
def shift? : List CaseRun → Nat → Option Int
  | [], _ => none
  | r :: rs, n =>
    if n < r.first then none
    else if r.covers n then some r.shift
    else shift? rs n

/-- The several characters that a code point maps to, in a list in increasing order. -/
def expansion? : List (Nat × List Nat) → Nat → Option (List Nat)
  | [], _ => none
  | (k, v) :: rest, n =>
    if n < k then none else if n = k then some v else expansion? rest n

/-- The code points that a code point maps to. -/
def applyNat (m : CaseMap) (n : Nat) : List Nat :=
  match shift? m.runs n with
  | some d => [((n : Int) + d).toNat]
  | none => (expansion? m.expansions n).getD [n]

/-- The characters that a character maps to. -/
def apply (m : CaseMap) (c : Char) : List Char :=
  (m.applyNat c.toNat).map Char.ofNat

end CaseMap

/-- A character in folded case. -/
def foldChar (c : Char) : List Char :=
  foldMap.apply c

/-- A text in folded case. -/
def fold (s : List Char) : List Char :=
  s.flatMap foldChar

/-- A text in upper case. -/
def upper (s : List Char) : List Char :=
  s.flatMap upperMap.apply

/-- Whether the nearest neighbour that is not case-ignorable has case. -/
def nextIsCased (s : List Char) : Bool :=
  match s.dropWhile caseIgnorables.containsChar with
  | [] => false
  | c :: _ => casedCharacters.containsChar c

/-- A text in lower case, where `before` is the text already read, latest character first. A
capital sigma at the end of a word takes its final form. -/
def lowerFrom (before : List Char) : List Char → List Char
  | [] => []
  | c :: r =>
    let here :=
      if c = 'Σ' then
        if nextIsCased before && !nextIsCased r then ['ς'] else ['σ']
      else lowerMap.apply c
    here ++ lowerFrom (c :: before) r

/-- A text in lower case. -/
def lower (s : List Char) : List Char :=
  lowerFrom [] s

/-- A string in folded case, the key under which names are looked up. -/
def folded (s : String) : String :=
  String.ofList (fold s.toList)

theorem fold_append (s t : List Char) : fold (s ++ t) = fold s ++ fold t := by
  simp [fold]

theorem fold_cons (c : Char) (s : List Char) : fold (c :: s) = foldChar c ++ fold s := by
  simp [fold]

theorem upper_append (s t : List Char) : upper (s ++ t) = upper s ++ upper t := by
  simp [upper]

/-- In ASCII, folding moves the capital letters and nothing else. -/
theorem fold_ascii :
    ∀ n : Fin 128, foldMap.applyNat n = [if 65 ≤ n.val ∧ n.val ≤ 90 then n.val + 32 else n.val] := by
  decide

theorem CaseRun.bounds_of_covers {r : CaseRun} {n : Nat} (h : r.covers n = true) :
    r.first ≤ n ∧ n ≤ r.last := by
  simp only [covers, Bool.and_eq_true, decide_eq_true_eq] at h
  exact h.1

theorem CaseMap.exists_run_of_shift? {runs : List CaseRun} {n : Nat} {d : Int}
    (h : CaseMap.shift? runs n = some d) : ∃ r ∈ runs, r.covers n = true ∧ r.shift = d := by
  induction runs with
  | nil => cases h
  | cons r runs ih =>
    rw [CaseMap.shift?] at h
    split at h
    · cases h
    · split at h
      · next hcovers => exact ⟨r, List.mem_cons_self, hcovers, Option.some.inj h⟩
      · obtain ⟨s, hs, hcovers⟩ := ih h
        exact ⟨s, List.mem_cons_of_mem _ hs, hcovers⟩

theorem CaseMap.mem_of_expansion? {expansions : List (Nat × List Nat)} {n : Nat} {v : List Nat}
    (h : CaseMap.expansion? expansions n = some v) : (n, v) ∈ expansions := by
  induction expansions with
  | nil => cases h
  | cons e expansions ih =>
    obtain ⟨k, w⟩ := e
    rw [CaseMap.expansion?] at h
    split at h
    · cases h
    · split at h
      · next hk =>
        obtain rfl := Option.some.inj h
        exact hk ▸ List.mem_cons_self
      · exact List.mem_cons_of_mem _ (ih h)

/-- **What a mapping does to a code point**: a run moves it, or an expansion replaces it, or it
stays as it is. -/
theorem CaseMap.applyNat_cases (m : CaseMap) (n : Nat) :
    (∃ r ∈ m.runs, r.covers n = true ∧ m.applyNat n = [((n : Int) + r.shift).toNat]) ∨
      (∃ v, (n, v) ∈ m.expansions ∧ m.applyNat n = v) ∨ m.applyNat n = [n] := by
  rw [applyNat]
  cases hshift : shift? m.runs n with
  | some d =>
    obtain ⟨r, hr, hcovers, rfl⟩ := exists_run_of_shift? hshift
    exact .inl ⟨r, hr, hcovers, rfl⟩
  | none =>
    cases hexpansion : expansion? m.expansions n with
    | some v => exact .inr (.inl ⟨v, mem_of_expansion? hexpansion, rfl⟩)
    | none => exact .inr (.inr rfl)

/-- A character that neither a run nor an expansion leads to is made from itself only. -/
theorem CaseMap.eq_of_mem_apply {m : CaseMap} {c d : Char} (hd : d.toNat ≠ 0)
    (hruns : ∀ r ∈ m.runs,
      ¬ ((r.first : Int) + r.shift ≤ d.toNat ∧ d.toNat ≤ (r.last : Int) + r.shift))
    (hexpansions : ∀ e ∈ m.expansions, d.toNat ∉ e.2) (h : d ∈ m.apply c) : c = d := by
  obtain ⟨k, hk, heq⟩ := List.mem_map.1 h
  have hkd : k = d.toNat := by
    by_cases hvalid : k.isValidChar
    · exact congrArg Char.toNat ((dif_pos hvalid).symm.trans heq)
    · exact absurd (congrArg Char.toNat ((dif_neg hvalid).symm.trans heq)).symm hd
  subst hkd
  rcases m.applyNat_cases c.toNat with ⟨r, hr, hcovers, happly⟩ | ⟨v, hv, happly⟩ | happly
  · rw [happly, List.mem_singleton] at hk
    have hpos : 0 < d.toNat := Nat.pos_of_ne_zero hd
    obtain ⟨hfirst, hlast⟩ := CaseRun.bounds_of_covers hcovers
    exact absurd ⟨by omega, by omega⟩ (hruns r hr)
  · rw [happly] at hk
    exact absurd hk (hexpansions _ hv)
  · rw [happly, List.mem_singleton] at hk
    exact Char.toNat_inj.1 hk.symm

/-- Folding makes no equals sign. -/
theorem eq_of_mem_foldChar {c : Char} (h : '=' ∈ foldChar c) : c = '=' :=
  CaseMap.eq_of_mem_apply (by decide) (by decide +kernel) (by decide +kernel) h

/-- Folding makes no closing brace. -/
theorem eq_brace_of_mem_foldChar {c : Char} (h : '\x7d' ∈ foldChar c) : c = '\x7d' :=
  CaseMap.eq_of_mem_apply (by decide) (by decide +kernel) (by decide +kernel) h

theorem brace_mem_fold_iff {s : List Char} : '\x7d' ∈ fold s ↔ '\x7d' ∈ s := by
  rw [fold, List.mem_flatMap]
  refine ⟨fun ⟨c, hc, h⟩ => eq_brace_of_mem_foldChar h ▸ hc, fun h => ⟨_, h, ?_⟩⟩
  decide

/-- A word written with a capital first letter and small letters after it. -/
def capitalized (s : List Char) : List Char :=
  upper (s.take 1) ++ s.drop 1

end LayoutTree.Text
