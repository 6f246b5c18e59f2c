import LayoutTree.Proofs.Number.Reading
import LayoutTree.Value.Color

/-!
# Colors are not numbers

A text that describes a color is read as no number (`readDouble?_of_ofChars?`). In hexadecimal it
starts with a character that no number holds. The names of colors consist of small letters, once
blanks, dashes and underscores are left out and the rest is folded; a number holds a digit of some
script, which folding leaves as it is, or it is one of the words for what is not finite, and these
are no names of colors.
-/

namespace LayoutTree

open LayoutTree.Text LayoutTree.Number

/-! ## Characters of numbers in a text -/

namespace Number

variable {s : List Char} {x : Double} {c : Char}

/-- What becomes of a character: it stays, it is a blank, it is a digit, or it ends the text. -/
theorem plainChars_cons (c : Char) (s : List Char) :
    (c.toNat < 128 ∧ plainChars (c :: s) = c :: plainChars s) ∨
    (isBlank c = true ∧ plainChars (c :: s) = ' ' :: plainChars s) ∨
    (∃ d, digitValue? c = some d ∧ plainChars (c :: s) = Char.ofNat (48 + d) :: plainChars s) ∨
    plainChars (c :: s) = ['?'] := by
  rw [plainChars]
  split
  · next hascii => exact .inl ⟨hascii, rfl⟩
  · split
    · next hblank => exact .inr (.inl ⟨hblank, rfl⟩)
    · split
      · next d hd => exact .inr (.inr (.inl ⟨d, hd, rfl⟩))
      · exact .inr (.inr (.inr rfl))

theorem question_notMem_of_readDouble? (h : readDouble? s = some x) : '?' ∉ plainChars s := by
  intro hmem
  have hchar := isNumeral_of_readDouble? h '?' (mem_stripSpaces hmem (by decide))
  exact absurd hchar (by decide)

theorem mem_plainChars_of_ascii (h : '?' ∉ plainChars s) (hc : c ∈ s) (hascii : c.toNat < 128) :
    c ∈ plainChars s := by
  induction s with
  | nil => cases hc
  | cons d s ih =>
    rcases List.mem_cons.1 hc with rfl | hc
    · rw [plainChars, if_pos hascii]
      exact List.mem_cons_self
    · rcases plainChars_cons d s with ⟨-, heq⟩ | ⟨-, heq⟩ | ⟨_, -, heq⟩ | heq
      all_goals rw [heq] at h ⊢
      · exact List.mem_cons_of_mem _ (ih (List.not_mem_of_not_mem_cons h) hc)
      · exact List.mem_cons_of_mem _ (ih (List.not_mem_of_not_mem_cons h) hc)
      · exact List.mem_cons_of_mem _ (ih (List.not_mem_of_not_mem_cons h) hc)
      · exact absurd List.mem_cons_self h

/-- What is read as a number holds no character of ASCII but those of numbers and spaces. -/
theorem isNumeralChar_of_mem (h : readDouble? s = some x) (hc : c ∈ s) (hascii : c.toNat < 128)
    (hspace : isNumberSpace c = false) : isNumeralChar c = true :=
  isNumeral_of_readDouble? h c (mem_stripSpaces
    (mem_plainChars_of_ascii (question_notMem_of_readDouble? h) hc hascii) hspace)

/-- A digit is one of some script in the text. -/
theorem exists_digitValue?_of_mem_plainChars (hc : c ∈ plainChars s)
    (hdigit : isDigitChar c = true) : ∃ d ∈ s, (digitValue? d).isSome = true := by
  have hascii : c.toNat < 128 → (digitValue? c).isSome = true := fun hc =>
    forall_char_lt (P := fun c => isDigitChar c = true → (digitValue? c).isSome = true)
      (by decide +kernel) hc hdigit
  induction s with
  | nil => cases hc
  | cons d s ih =>
    have hrest : c ∈ plainChars s → ∃ d' ∈ d :: s, (digitValue? d').isSome = true := fun hc =>
      (ih hc).imp fun _ => And.imp_left (List.mem_cons_of_mem _)
    rcases plainChars_cons d s with ⟨hd, heq⟩ | ⟨-, heq⟩ | ⟨value, hvalue, -⟩ | heq
    · rcases List.mem_cons.1 (heq ▸ hc) with rfl | hc
      · exact ⟨c, List.mem_cons_self, hascii hd⟩
      · exact hrest hc
    · rcases List.mem_cons.1 (heq ▸ hc) with rfl | hc
      · exact absurd hdigit (by decide)
      · exact hrest hc
    · exact ⟨d, List.mem_cons_self, by rw [hvalue, Option.isSome_some]⟩
    · rw [heq] at hc
      rw [List.mem_singleton.1 hc] at hdigit
      exact absurd hdigit (by decide)

end Number

/-! ## Symbols of numbers -/

namespace Text

/-- A character that neither a run nor an expansion is about is left as it is by folding. -/
theorem foldChar_eq_singleton {c : Char}
    (hruns : ∀ r ∈ foldMap.runs, c.toNat < r.first ∨ r.last < c.toNat)
    (hexpansions : ∀ e ∈ foldMap.expansions, e.1 ≠ c.toNat) : foldChar c = [c] := by
  have happly : foldMap.applyNat c.toNat = [c.toNat] := by
    rcases foldMap.applyNat_cases c.toNat with ⟨r, hr, hcovers, -⟩ | ⟨v, hv, -⟩ | happly
    · obtain ⟨hfirst, hlast⟩ := CaseRun.bounds_of_covers hcovers
      have := hruns r hr
      omega
    · exact absurd rfl (hexpansions _ hv)
    · exact happly
  rw [foldChar, CaseMap.apply, happly, List.map_singleton, Char.ofNat_toNat]

theorem exists_zero_of_digitValue? {c : Char} (h : (digitValue? c).isSome = true) :
    ∃ z ∈ digitZeros, z ≤ c.toNat ∧ c.toNat ≤ z + 9 := by
  rw [digitValue?, Option.isSome_map, List.find?_isSome] at h
  obtain ⟨z, hz, hrange⟩ := h
  simp only [Bool.and_eq_true, decide_eq_true_eq] at hrange
  exact ⟨z, hz, hrange.1, by omega⟩

/-- Digits of all scripts stay in a symbol. -/
theorem mem_symbol_of_digitValue? {s : List Char} {c : Char} (hc : c ∈ s)
    (hdigit : (digitValue? c).isSome = true) : c ∈ symbol s := by
  have hruns : ∀ z ∈ digitZeros, ∀ r ∈ foldMap.runs, z + 9 < r.first ∨ r.last < z := by
    decide +kernel
  have hexpansions : ∀ z ∈ digitZeros, ∀ e ∈ foldMap.expansions, z + 9 < e.1 ∨ e.1 < z := by
    decide +kernel
  have hjoint : ∀ z ∈ digitZeros, ∀ i < 10, isJoint (Char.ofNat (z + i)) = false := by
    decide +kernel
  obtain ⟨z, hz, hfirst, hlast⟩ := exists_zero_of_digitValue? hdigit
  have hfold : foldChar c = [c] := foldChar_eq_singleton
    (fun r hr => (hruns z hz r hr).imp (by omega) (by omega))
    (fun e he => by have := hexpansions z hz e he; omega)
  replace hjoint := hjoint z hz (c.toNat - z) (by omega)
  rw [Nat.add_sub_cancel' hfirst, Char.ofNat_toNat] at hjoint
  refine List.mem_flatMap.2 ⟨c, List.mem_filter.2 ⟨hc, by simp [hjoint]⟩, ?_⟩
  rw [hfold]
  exact List.mem_singleton_self c

theorem bounds_of_isUpper {c : Char} (h : c.isUpper = true) : 65 ≤ c.toNat ∧ c.toNat ≤ 90 := by
  obtain ⟨hfirst, hlast⟩ := of_decide_eq_true h
  exact ⟨UInt32.le_iff_toNat_le.1 hfirst, UInt32.le_iff_toNat_le.1 hlast⟩

theorem bounds_of_isLower {c : Char} (h : c.isLower = true) : 97 ≤ c.toNat ∧ c.toNat ≤ 122 := by
  obtain ⟨hfirst, hlast⟩ := Bool.and_eq_true_iff.1 h
  exact ⟨UInt32.le_iff_toNat_le.1 (of_decide_eq_true hfirst),
    UInt32.le_iff_toNat_le.1 (of_decide_eq_true hlast)⟩

/-- A digit is no letter of ASCII. -/
theorem digitValue?_of_isLower {c : Char} (h : c.isLower = true) : digitValue? c = none := by
  have hzeros : ∀ z ∈ digitZeros, z + 9 < 97 ∨ 122 < z := by decide
  by_contra hdigit
  obtain ⟨z, hz, hrange⟩ := exists_zero_of_digitValue? (Option.isSome_iff_ne_none.2 hdigit)
  have hletter := bounds_of_isLower h
  have := hzeros z hz
  omega

theorem isJoint_of_isNumberSpace {c : Char} (h : isNumberSpace c = true) : isJoint c = true := by
  have hlow : c.toNat < 33 := by
    simp only [isNumberSpace, Bool.or_eq_true, Bool.and_eq_true, decide_eq_true_eq] at h
    rcases h with rfl | h
    · decide
    · omega
  exact forall_char_lt (P := fun c => isNumberSpace c = true → isJoint c = true) (by decide) hlow h

/-- The characters of a text that a symbol is made of. -/
theorem filter_dropWhile_of_isJoint {p : Char → Bool} (hp : ∀ c, p c = true → isJoint c = true)
    (s : List Char) :
    (s.dropWhile p).filter (fun c => !isJoint c) = s.filter (fun c => !isJoint c) := by
  induction s with
  | nil => rfl
  | cons c s ih =>
    rw [List.dropWhile_cons]
    split
    · next hc => rw [ih, List.filter_cons_of_neg (by simp [hp c hc])]
    · rfl

theorem symbol_stripSpaces (s : List Char) : symbol (stripSpaces s) = symbol s := by
  rw [symbol, symbol, stripSpaces, List.filter_reverse,
    filter_dropWhile_of_isJoint fun _ => isJoint_of_isNumberSpace, List.filter_reverse,
    List.reverse_reverse, filter_dropWhile_of_isJoint fun _ => isJoint_of_isNumberSpace]

/-- Without digits of other scripts, the text of a number has the symbol of the number. -/
theorem symbol_plainChars {s : List Char} (h : '?' ∉ plainChars s)
    (hdigits : ∀ c ∈ s, digitValue? c = none) : symbol (plainChars s) = symbol s := by
  induction s with
  | nil => rfl
  | cons c s ih =>
    have hrest : ∀ d ∈ s, digitValue? d = none := fun d hd => hdigits d (List.mem_cons_of_mem _ hd)
    rcases plainChars_cons c s with ⟨-, heq⟩ | ⟨hblank, heq⟩ | ⟨d, hd, -⟩ | heq
    · rw [heq] at h ⊢
      rw [← List.singleton_append, symbol_append, ih (List.not_mem_of_not_mem_cons h) hrest,
        ← symbol_append, List.singleton_append]
    · rw [heq] at h ⊢
      rw [symbol_cons_of_isJoint _ (by decide), ih (List.not_mem_of_not_mem_cons h) hrest,
        symbol_cons_of_isJoint _ (by simp [isJoint, hblank])]
    · rw [hdigits c List.mem_cons_self] at hd
      cases hd
    · rw [heq] at h
      exact absurd List.mem_cons_self h

theorem symbol_filter_underscore (s : List Char) : symbol (s.filter (· != '_')) = symbol s := by
  rw [symbol, symbol, List.filter_filter]
  congr 2
  funext c
  by_cases hc : c = '_'
  · subst hc
    decide
  · simp [hc]

/-- Letters of ASCII are folded to the small ones. -/
theorem symbol_of_isAlpha {s : List Char} (h : ∀ c ∈ s, c.isAlpha = true) :
    symbol s = s.map Char.toLower := by
  induction s with
  | nil => rfl
  | cons c s ih =>
    have hc := h c List.mem_cons_self
    have hascii : c.toNat < 128 := by
      rcases Bool.or_eq_true_iff.1 hc with hupper | hlower
      · have := bounds_of_isUpper hupper
        omega
      · have := bounds_of_isLower hlower
        omega
    obtain ⟨hjoint, hfold⟩ := forall_char_lt
      (P := fun c => c.isAlpha = true → isJoint c = false ∧ foldChar c = [c.toLower])
      (by decide +kernel) hascii hc
    rw [symbol, List.filter_cons_of_pos (by simp [hjoint]), fold_cons, hfold, ← symbol,
      ih fun d hd => h d (List.mem_cons_of_mem _ hd)]
    rfl

end Text

/-! ## Names of colors -/

namespace Color

/-- The names of all colors. -/
def colorNames : List String := transparentName :: namedColors.map Prod.fst

/-- A color that is not in hexadecimal has a name. -/
theorem exists_name_of_ofName? {name : List Char} {c : Color} (h : ofName? name = some c) :
    ∃ key ∈ colorNames, symbol name = key.toList := by
  refine ⟨String.ofList (symbol name), ?_, (String.toList_ofList).symm⟩
  rw [ofName?] at h
  split at h
  · next htransparent => exact htransparent ▸ List.mem_cons_self
  · obtain ⟨rgb, hrgb, -⟩ := Option.map_eq_some_iff.1 h
    obtain ⟨before, after, heq, -⟩ := List.lookup_eq_some_iff.1 hrgb
    rw [colorNames, heq]
    simp

/-- A number has not the symbol of a color. -/
theorem symbol_ne_of_readDouble? {s : List Char} {x : Double} (h : readDouble? s = some x) :
    ∀ key ∈ colorNames, symbol s ≠ key.toList := by
  have hletters : ∀ key ∈ colorNames, key.toList.all Char.isLower = true := by decide +kernel
  have hwords : ∀ key ∈ colorNames, ∀ sign ∈ [[], ['+'], ['-']], ∀ word ∈ numeralWords,
      symbol sign ++ word ≠ key.toList := by decide +kernel
  intro key hkey hs
  -- No letter of a name is a digit, so none is in the text, and the number is a word.
  have hdigits : ∀ c ∈ s, digitValue? c = none := by
    intro c hc
    by_contra hdigit
    have hmem := mem_symbol_of_digitValue? hc (Option.isSome_iff_ne_none.2 hdigit)
    exact hdigit (digitValue?_of_isLower (List.all_eq_true.1 (hletters key hkey) c (hs ▸ hmem)))
  have hplain : symbol (plainText s) = symbol s := by
    rw [plainText_eq, symbol_stripSpaces,
      symbol_plainChars (question_notMem_of_readDouble? h) hdigits]
  rcases digit_or_word_of_readDouble? h with ⟨c, hc, hdigit⟩ | ⟨t, ht, hword⟩
  · obtain ⟨d, hd, hvalue⟩ :=
      exists_digitValue?_of_mem_plainChars (mem_of_mem_stripSpaces hc) hdigit
    rw [hdigits d hd] at hvalue
    cases hvalue
  · have hsymbol : symbol t = symbol s := by
      rcases ht with rfl | rfl
      · exact hplain
      · rw [symbol_filter_underscore, hplain]
    obtain ⟨sign, hsign, htext⟩ := exists_sign t
    rw [htext, symbol_append, symbol_of_isAlpha (isAlpha_of_word hword), hs] at hsymbol
    exact hwords key hkey sign hsign _ hword hsymbol

/-- **What describes a color is read as no number.** -/
theorem readDouble?_of_ofChars? {s : List Char} {c : Color} (h : ofChars? s = some c) :
    readDouble? s = none := by
  by_contra hnumber
  obtain ⟨x, hx⟩ := Option.ne_none_iff_exists'.1 hnumber
  replace hx := readDouble?_trim hx
  rw [ofChars?] at h
  split at h
  · next digits hhex =>
    have hhash := isNumeralChar_of_mem hx (hhex ▸ List.mem_cons_self : '#' ∈ trim s) (by decide)
      (by decide)
    exact absurd hhash (by decide)
  · obtain ⟨key, hkey, hname⟩ := exists_name_of_ofName? h
    exact symbol_ne_of_readDouble? hx key hkey hname

end Color

end LayoutTree
