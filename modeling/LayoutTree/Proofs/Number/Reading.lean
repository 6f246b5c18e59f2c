import LayoutTree.Number.Read
import LayoutTree.Text.Search
import Mathlib.Data.List.Induction
import Mathlib.Data.List.TakeWhile

/-!
# Reading numbers between blanks

A number is written with few characters (`isNumeral_of_readDouble?`), and there is a digit among
them or it is one of three words (`digit_or_word_of_readDouble?`).

A text is read as a double without the spaces around it, and it is trimmed of the blanks around it.
The two differ on the separators of ASCII, which are blanks and no spaces. No number holds one, so a
text that is read as a double is read as the same double after trimming (`readDouble_trimmed`).
-/

namespace LayoutTree

/-- What holds of the characters below a code point can be found out one by one. -/
theorem Text.forall_char_lt {P : Char → Prop} {b : Nat} (h : ∀ n < b, P (Char.ofNat n)) {c : Char}
    (hc : c.toNat < b) : P c :=
  Char.ofNat_toNat c ▸ h c.toNat hc

namespace Number

open LayoutTree.Text

/-! ## The characters of numbers -/

/-- Whether a character can stand in a number. -/
def isNumeralChar (c : Char) : Bool :=
  isDigitChar c || c.isAlpha || c = '+' || c = '-' || c = '.' || c = '_'

/-- Every character can stand in a number. -/
def IsNumeral (s : List Char) : Prop :=
  ∀ c ∈ s, isNumeralChar c = true

theorem isNumeral_nil : IsNumeral [] := fun _ hc => by cases hc

theorem isNumeral_append {s t : List Char} (hs : IsNumeral s) (ht : IsNumeral t) :
    IsNumeral (s ++ t) := fun c hc => (List.mem_append.1 hc).elim (hs c) (ht c)

theorem isNumeral_cons {c : Char} {s : List Char} (hc : isNumeralChar c = true)
    (hs : IsNumeral s) : IsNumeral (c :: s) :=
  List.forall_mem_cons.2 ⟨hc, hs⟩

theorem isNumeralChar_of_isDigitChar {c : Char} (h : isDigitChar c = true) :
    isNumeralChar c = true := by
  simp [isNumeralChar, h]

theorem isNumeralChar_of_isAlpha {c : Char} (h : c.isAlpha = true) : isNumeralChar c = true := by
  simp [isNumeralChar, h]

theorem isNumeral_takeDigits (s : List Char) : IsNumeral (s.takeWhile isDigitChar) :=
  fun _ hc => isNumeralChar_of_isDigitChar (List.mem_takeWhile_imp hc)

/-- Digits and what follows them are those of a number if what follows is. -/
theorem isNumeral_of_dropDigits {s : List Char} (h : IsNumeral (s.dropWhile isDigitChar)) :
    IsNumeral s := by
  rw [← List.takeWhile_append_dropWhile (p := isDigitChar) (l := s)]
  exact isNumeral_append (isNumeral_takeDigits s) h

/-- The sign of a text. -/
theorem exists_sign (s : List Char) :
    ∃ sign ∈ [[], ['+'], ['-']], s = sign ++ (scanSign s).2 := by
  unfold scanSign
  split
  · exact ⟨['-'], by simp, rfl⟩
  · exact ⟨['+'], by simp, rfl⟩
  · exact ⟨[], by simp, rfl⟩

theorem isNumeral_of_scanSign {s : List Char} (h : IsNumeral (scanSign s).2) : IsNumeral s := by
  obtain ⟨sign, hsign, hs⟩ := exists_sign s
  have hall : ∀ sign ∈ [[], ['+'], ['-']], sign.all isNumeralChar = true := by decide
  rw [hs]
  exact isNumeral_append (List.all_eq_true.1 (hall sign hsign)) h

theorem isNumeral_of_scanExponent {s : List Char} (h : (scanExponent s).2 = []) :
    IsNumeral s := by
  cases s with
  | nil => exact isNumeral_nil
  | cons e r =>
    simp only [scanExponent] at h
    split at h
    · next he =>
      split at h
      · cases h
      · have hdigits : IsNumeral (scanSign r).2 := by
          apply isNumeral_of_dropDigits
          rw [show (scanSign r).2.dropWhile isDigitChar = [] from h]
          exact isNumeral_nil
        refine isNumeral_cons ?_ (isNumeral_of_scanSign hdigits)
        rcases he with rfl | rfl
        · decide
        · decide
    · cases h

theorem isNumeral_of_scanFraction {s : List Char} (h : IsNumeral (scanFraction s).2) :
    IsNumeral s := by
  unfold scanFraction at h
  split at h
  · exact isNumeral_cons (by decide) (isNumeral_of_dropDigits h)
  · exact h

/-- A decimal number holds a digit. -/
theorem exists_digit_of_scanDecimal? {s rest : List Char} {n : Nat} {e : Int}
    (h : scanDecimal? s = some (n, e, rest)) : ∃ c ∈ s, isDigitChar c = true := by
  simp only [scanDecimal?] at h
  split at h
  · cases h
  · next hne =>
    by_contra hnone
    have hdigits : ∀ t : List Char, t ⊆ s → t.takeWhile isDigitChar = [] := by
      intro t ht
      cases t with
      | nil => rfl
      | cons c t =>
        refine List.takeWhile_cons_of_neg fun hc => hnone ⟨c, ht List.mem_cons_self, hc⟩
    have hrest : s.dropWhile isDigitChar ⊆ s := (List.dropWhile_sublist _).subset
    have hfraction : (scanFraction (s.dropWhile isDigitChar)).1 = [] := by
      unfold scanFraction
      split
      · next r heq =>
        exact hdigits r fun c hc => hrest (heq ▸ List.mem_cons_of_mem _ hc)
      · rfl
    rw [hdigits s (List.Subset.refl s), hfraction] at hne
    exact hne rfl

theorem isNumeral_of_scanDecimal? {s : List Char} {n : Nat} {e : Int}
    (h : scanDecimal? s = some (n, e, [])) : IsNumeral s := by
  simp only [scanDecimal?] at h
  split at h
  · cases h
  · simp only [Option.some.injEq, Prod.mk.injEq] at h
    exact isNumeral_of_dropDigits (isNumeral_of_scanFraction (isNumeral_of_scanExponent h.2.2))

/-- The words that are numbers. -/
def numeralWords : List (List Char) := ["infinity".toList, "inf".toList, "nan".toList]

theorem map_toLower_of_startsWithWord {word s : List Char} (h : startsWithWord word s = true)
    (hrest : s.drop word.length = []) : s.map Char.toLower = word := by
  have hlength : s.length ≤ word.length := List.drop_eq_nil_iff.1 hrest
  rw [startsWithWord, List.take_of_length_le hlength, List.isPrefixOf_iff_prefix] at h
  exact (h.eq_of_length_le (by simpa using hlength)).symm

/-- A number is a decimal number or a word, its case not counted, after a sign. -/
theorem decimal_or_word_of_scanDouble? {s : List Char} {x : Double}
    (h : scanDouble? s = some (x, [])) :
    (∃ n e, scanDecimal? (scanSign s).2 = some (n, e, [])) ∨
      (scanSign s).2.map Char.toLower ∈ numeralWords := by
  simp only [scanDouble?] at h
  split at h
  · next n e rest hdecimal =>
    simp only [Option.some.injEq, Prod.mk.injEq] at h
    exact .inl ⟨n, e, h.2 ▸ hdecimal⟩
  · refine .inr ?_
    split at h
    · next hword =>
      simp only [Option.some.injEq, Prod.mk.injEq] at h
      rw [map_toLower_of_startsWithWord hword h.2]
      decide
    · split at h
      · next hword =>
        simp only [Option.some.injEq, Prod.mk.injEq] at h
        rw [map_toLower_of_startsWithWord hword h.2]
        decide
      · split at h
        · next hword =>
          simp only [Option.some.injEq, Prod.mk.injEq] at h
          rw [map_toLower_of_startsWithWord hword h.2]
          decide
        · cases h

theorem isAlpha_of_isLower_toLower {c : Char} (h : c.toLower.isLower = true) :
    c.isAlpha = true := by
  refine Bool.or_eq_true_iff.2 ?_
  by_cases hupper : c.isUpper = true
  · exact .inl hupper
  · have hsame : c.toLower = c := dif_neg fun hbounds => hupper (decide_eq_true hbounds)
    exact .inr (hsame ▸ h)

theorem isAlpha_of_word {s : List Char} (h : s.map Char.toLower ∈ numeralWords) :
    ∀ c ∈ s, c.isAlpha = true := by
  have hletters : ∀ word ∈ numeralWords, word.all Char.isLower = true := by decide
  intro c hc
  exact isAlpha_of_isLower_toLower (List.all_eq_true.1 (hletters _ h) _ (List.mem_map_of_mem hc))

theorem isNumeral_of_scanDouble? {s : List Char} {x : Double}
    (h : scanDouble? s = some (x, [])) : IsNumeral s := by
  refine isNumeral_of_scanSign ?_
  rcases decimal_or_word_of_scanDouble? h with ⟨n, e, hdecimal⟩ | hword
  · exact isNumeral_of_scanDecimal? hdecimal
  · exact fun c hc => isNumeralChar_of_isAlpha (isAlpha_of_word hword c hc)

/-- Underscores are dropped between digits only. -/
theorem eq_or_filter_of_dropUnderscores? {s t : List Char} (h : dropUnderscores? s = some t) :
    t = s ∨ t = s.filter (· != '_') := by
  simp only [dropUnderscores?] at h
  split at h
  · split at h
    · exact .inr (Option.some.inj h).symm
    · cases h
  · exact .inl (Option.some.inj h).symm

theorem isNumeral_of_dropUnderscores? {s t : List Char} (h : dropUnderscores? s = some t)
    (ht : IsNumeral t) : IsNumeral s := by
  rcases eq_or_filter_of_dropUnderscores? h with rfl | rfl
  · exact ht
  · intro c hc
    by_cases hunderscore : c = '_'
    · subst hunderscore
      decide
    · exact ht c (List.mem_filter.2 ⟨hc, by simpa using hunderscore⟩)

theorem exists_scan_of_readDouble? {s : List Char} {x : Double} (h : readDouble? s = some x) :
    ∃ t, dropUnderscores? (plainText s) = some t ∧ scanDouble? t = some (x, []) := by
  rw [readDouble?] at h
  cases hdrop : dropUnderscores? (plainText s) with
  | none => simp [hdrop] at h
  | some t =>
    rw [hdrop, Option.bind_some] at h
    split at h
    · next hscan => exact ⟨t, rfl, Option.some.inj h ▸ hscan⟩
    · cases h

/-- **A number is written with few characters.** -/
theorem isNumeral_of_readDouble? {s : List Char} {x : Double} (h : readDouble? s = some x) :
    IsNumeral (plainText s) := by
  obtain ⟨t, hdrop, hscan⟩ := exists_scan_of_readDouble? h
  exact isNumeral_of_dropUnderscores? hdrop (isNumeral_of_scanDouble? hscan)

/-- A number holds a digit, or it is a sign and a word, underscores and case not counted. -/
theorem digit_or_word_of_readDouble? {s : List Char} {x : Double} (h : readDouble? s = some x) :
    (∃ c ∈ plainText s, isDigitChar c = true) ∨
      ∃ t, (t = plainText s ∨ t = (plainText s).filter (· != '_')) ∧
        (scanSign t).2.map Char.toLower ∈ numeralWords := by
  obtain ⟨t, hdrop, hscan⟩ := exists_scan_of_readDouble? h
  have ht := eq_or_filter_of_dropUnderscores? hdrop
  refine (decimal_or_word_of_scanDouble? hscan).imp ?_ fun hword => ⟨t, ht, hword⟩
  rintro ⟨n, e, hdecimal⟩
  obtain ⟨c, hc, hdigit⟩ := exists_digit_of_scanDecimal? hdecimal
  obtain ⟨sign, -, hsign⟩ := exists_sign t
  have hct : c ∈ t := hsign ▸ List.mem_append_right sign hc
  refine ⟨c, ?_, hdigit⟩
  rcases ht with rfl | rfl
  · exact hct
  · exact (List.mem_filter.1 hct).1

/-! ## Blanks around a number -/

/-- A text without the spaces around it. -/
def stripSpaces (s : List Char) : List Char :=
  ((s.dropWhile isNumberSpace).reverse.dropWhile isNumberSpace).reverse

theorem plainText_eq (s : List Char) : plainText s = stripSpaces (plainChars s) := rfl

theorem mem_dropWhile_of_not {p : Char → Bool} {c : Char} {s : List Char} (hc : c ∈ s)
    (hp : p c = false) : c ∈ s.dropWhile p := by
  rw [← List.takeWhile_append_dropWhile (p := p) (l := s)] at hc
  rcases List.mem_append.1 hc with hc | hc
  · exact absurd (List.mem_takeWhile_imp hc) (by simp [hp])
  · exact hc

theorem mem_stripSpaces {c : Char} {s : List Char} (hc : c ∈ s) (hp : isNumberSpace c = false) :
    c ∈ stripSpaces s :=
  List.mem_reverse.2 (mem_dropWhile_of_not (List.mem_reverse.2 (mem_dropWhile_of_not hc hp)) hp)

theorem mem_of_mem_stripSpaces {c : Char} {s : List Char} (hc : c ∈ stripSpaces s) : c ∈ s :=
  (List.dropWhile_sublist _).subset
    (List.mem_reverse.1 ((List.dropWhile_sublist _).subset (List.mem_reverse.1 hc)))

theorem stripSpaces_cons {c : Char} (hc : isNumberSpace c = true) (s : List Char) :
    stripSpaces (c :: s) = stripSpaces s := by
  rw [stripSpaces, stripSpaces, List.dropWhile_cons_of_pos hc]

theorem stripSpaces_append {c : Char} (hc : isNumberSpace c = true) (s : List Char) :
    stripSpaces (s ++ [c]) = stripSpaces s := by
  rw [stripSpaces, stripSpaces, List.dropWhile_append]
  split
  · next hempty =>
    rw [List.isEmpty_iff.1 hempty]
    simp [hc]
  · rw [List.reverse_append, List.reverse_singleton, List.singleton_append,
      List.dropWhile_cons_of_pos hc]

/-- A blank becomes a space, unless it is a separator, which stays. -/
theorem plainChars_blank {c : Char} (hc : isBlank c = true) :
    ∃ d, (∀ s, plainChars (c :: s) = d :: plainChars s) ∧
      (isNumberSpace d = true ∨ isNumberSpace d = false ∧ 28 ≤ d.toNat ∧ d.toNat ≤ 31) := by
  by_cases hascii : c.toNat < 128
  · refine ⟨c, fun s => by rw [plainChars, if_pos hascii], ?_⟩
    simp only [isBlank, Bool.or_eq_true, Bool.and_eq_true, decide_eq_true_eq, beq_iff_eq] at hc
    simp only [isNumberSpace, Bool.or_eq_true, Bool.or_eq_false_iff, Bool.and_eq_true,
      decide_eq_true_eq, decide_eq_false_iff_not, Bool.and_eq_false_imp]
    by_cases hspace : c = ' '
    · exact .inl (.inl hspace)
    · have hne : c.toNat ≠ 32 := fun h => hspace (Char.toNat_inj.1 h)
      by_cases hseparator : 28 ≤ c.toNat ∧ c.toNat ≤ 31
      · exact .inr ⟨⟨hspace, fun _ => by omega⟩, hseparator⟩
      · exact .inl (.inr (by omega))
  · exact ⟨' ', fun s => by rw [plainChars, if_neg hascii, if_pos hc], .inl (by decide)⟩

theorem plainChars_append (s : List Char) (c : Char) :
    plainChars (s ++ [c]) = plainChars s ∨
      plainChars (s ++ [c]) = plainChars s ++ plainChars [c] := by
  induction s with
  | nil => exact .inr rfl
  | cons d s ih =>
    rw [List.cons_append, plainChars, plainChars]
    split
    · simpa using ih
    · split
      · simpa using ih
      · split
        · simpa using ih
        · exact .inl rfl

/-- The separators of ASCII stand in no number. -/
theorem not_isNumeralChar {c : Char} (h : 28 ≤ c.toNat ∧ c.toNat ≤ 31) :
    ¬ isNumeralChar c = true := by
  exact forall_char_lt (P := fun c => 28 ≤ c.toNat → ¬ isNumeralChar c = true) (by decide)
    (Nat.lt_succ_of_le h.2) h.1

theorem plainText_cons {c : Char} (hc : isBlank c = true) {s : List Char}
    (h : IsNumeral (plainText (c :: s))) : plainText (c :: s) = plainText s := by
  obtain ⟨d, hd, hspace | ⟨hnot, hseparator⟩⟩ := plainChars_blank hc
  · rw [plainText_eq, hd, stripSpaces_cons hspace, plainText_eq]
  · rw [plainText_eq, hd] at h
    exact absurd (h d (mem_stripSpaces List.mem_cons_self hnot)) (not_isNumeralChar hseparator)

theorem plainText_append {c : Char} (hc : isBlank c = true) {s : List Char}
    (h : IsNumeral (plainText (s ++ [c]))) : plainText (s ++ [c]) = plainText s := by
  rw [plainText_eq, plainText_eq]
  rcases plainChars_append s c with hsame | hmore
  · rw [hsame]
  · obtain ⟨d, hd, hspace | ⟨hnot, hseparator⟩⟩ := plainChars_blank hc
    · rw [hmore, hd, plainChars, stripSpaces_append hspace]
    · rw [plainText_eq, hmore, hd] at h
      exact absurd (h d (mem_stripSpaces (by simp) hnot)) (not_isNumeralChar hseparator)

theorem plainText_trimStart {s : List Char} (h : IsNumeral (plainText s)) :
    plainText (trimStart s) = plainText s := by
  induction s with
  | nil => rfl
  | cons c s ih =>
    by_cases hc : isBlank c = true
    · have hcons := plainText_cons hc h
      rw [trimStart, List.dropWhile_cons_of_pos hc, hcons]
      exact ih (hcons ▸ h)
    · rw [trimStart_cons_of_not_blank s (eq_false_of_ne_true hc)]

theorem plainText_trimEnd {s : List Char} (h : IsNumeral (plainText s)) :
    plainText (trimEnd s) = plainText s := by
  induction s using List.reverseRecOn with
  | nil => rfl
  | append_singleton s c ih =>
    rw [trimEnd, List.reverse_append, List.reverse_singleton, List.singleton_append]
    by_cases hc : isBlank c = true
    · have happend := plainText_append hc h
      rw [List.dropWhile_cons_of_pos hc, happend]
      exact ih (happend ▸ h)
    · rw [List.dropWhile_cons_of_neg hc, List.reverse_cons, List.reverse_reverse]

theorem readDouble_eq_ok_iff {s : String} {x : Double} :
    readDouble s = .ok x ↔ readDouble? s.toList = some x := by
  rw [readDouble]
  cases readDouble? s.toList with
  | none => exact iff_of_false (fun h => by cases h) (fun h => by cases h)
  | some y => exact ⟨fun h => congrArg some (Except.ok.inj h), fun h => by rw [Option.some.inj h]⟩

theorem readDouble?_trim {s : List Char} {x : Double} (h : readDouble? s = some x) :
    readDouble? (trim s) = some x := by
  have hnumeral := isNumeral_of_readDouble? h
  have hstart := plainText_trimStart hnumeral
  rw [readDouble?, trim, plainText_trimEnd (hstart ▸ hnumeral), hstart, ← readDouble?, h]

/-- **A text that is read as a double is read as the same double without the blanks around it.** -/
theorem readDouble_trimmed {s : String} {x : Double} (h : readDouble s = .ok x) :
    readDouble (trimmed s) = .ok x := by
  rw [readDouble_eq_ok_iff, trimmed, onChars, String.toList_ofList]
  exact readDouble?_trim (readDouble_eq_ok_iff.1 h)

end Number

end LayoutTree
