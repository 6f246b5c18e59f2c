import LayoutTree.Json.Reader
import LayoutTree.Json.Writer
import Mathlib.Algebra.Group.Nat.Defs

/-!
# Reading back what was written

The text of a structured value is read as the value again. The reader keeps the open containers on a
stack, so the statement is about any stack and any text after the value: reading goes on as it does
after the complete value (`value_write`). For a list the values so far grow by its items one by one
(`after_writeItems`), for an object by its fields (`after_writeFields`), and their names stay in
order because no two of them are the same.

Doubles are left out, and so are integers with more digits than are read (`Data.IsPortable`). The
main statement is `read_render`.
-/

namespace LayoutTree

open LayoutTree.Number LayoutTree.Text

/-! ## Values that a text carries -/

namespace Data

mutual

/-- A value holds no doubles and no integers of more digits than are read, and the names of each
object are different. -/
def IsPortable : Data → Prop
  | .null | .bool _ | .text _ => True
  | .integer n => n.natAbs < 10 ^ maxIntegerDigits
  | .number _ => False
  | .list items => ArePortable items
  | .object fields => (fields.map Prod.fst).Nodup ∧ ArePortableFields fields

/-- All items are values that a text carries. -/
def ArePortable : List Data → Prop
  | [] => True
  | v :: rest => IsPortable v ∧ ArePortable rest

/-- The values of all fields are values that a text carries. -/
def ArePortableFields : List (String × Data) → Prop
  | [] => True
  | (_, v) :: rest => IsPortable v ∧ ArePortableFields rest

end

theorem arePortable_iff {items : List Data} : ArePortable items ↔ ∀ v ∈ items, IsPortable v := by
  induction items with
  | nil => simp [ArePortable]
  | cons v rest ih => rw [ArePortable, ih, List.forall_mem_cons]

/-- A field of a new name comes last. -/
theorem putField_of_not_mem {fields : List (String × Data)} {name : String} (v : Data)
    (h : name ∉ fields.map Prod.fst) : putField fields name v = fields ++ [(name, v)] := by
  induction fields with
  | nil => rfl
  | cons f rest ih =>
    obtain ⟨other, w⟩ := f
    rw [List.map_cons, List.mem_cons, not_or] at h
    rw [putField, if_neg (Ne.symm h.1), ih h.2, List.cons_append]

end Data

namespace Json

/-! ## Strings -/

/-- The escape of a control character stands for it. -/
theorem scanUnicode_hexPadded {c : Char} (hc : c.toNat < 32) {s : List Char} (hs : s ≠ []) :
    scanUnicode (hexPadded 4 c.toNat ++ s) = .ok (c, s) := by
  have hdigits : ∀ n < 32, hexPadded 4 n = ['0', '0', (n / 16).digitChar, (n % 16).digitChar] ∧
      hex4? '0' '0' (n / 16).digitChar (n % 16).digitChar = some n := by decide
  obtain ⟨hchars, hvalue⟩ := hdigits c.toNat hc
  obtain ⟨e, r, rfl⟩ := List.exists_cons_of_ne_nil hs
  have hunit : unitChar c.toNat = c := by
    rw [unitChar, if_neg (by omega), Char.ofNat_toNat]
  have hpair : opensPair c.toNat = false := by
    simp only [opensPair, Bool.and_eq_false_imp, decide_eq_true_eq, decide_eq_false_iff_not]
    omega
  rw [hchars]
  simp only [List.cons_append, List.nil_append, scanUnicode, hvalue, hpair, hunit]
  split
  · simp
  · rfl

/-- A character is written as an escape of one character, as a code or as itself. -/
theorem writeChar_cases (c : Char) :
    (∃ e, writeChar c = ['\\', e] ∧ e ≠ 'u' ∧ escape? e = some c) ∨
      (writeChar c = '\\' :: 'u' :: hexPadded 4 c.toNat ∧ c.toNat < 32) ∨
      (writeChar c = [c] ∧ c ≠ '"' ∧ c ≠ '\\' ∧ ¬ c.toNat < 32) := by
  rw [writeChar]
  -- seven characters have an escape of their own
  iterate 7
    split
    · subst c
      exact .inl ⟨_, rfl, by decide, rfl⟩
  rename_i hquote hbackslash _ _ _ _ _
  split
  · next hcontrol => exact .inr (.inl ⟨rfl, hcontrol⟩)
  · next hcontrol => exact .inr (.inr ⟨rfl, hquote, hbackslash, hcontrol⟩)

/-- A written character is read as the character. -/
theorem scanString_writeChar (start : Nat) (acc : List Char) (c : Char) {s : List Char}
    (hs : s ≠ []) :
    scanString start acc (writeChar c ++ s) = scanString start (c :: acc) s := by
  obtain ⟨e, hchars, hunicode, hescape⟩ | ⟨hchars, hcontrol⟩ |
    ⟨hchars, hquote, hbackslash, hcontrol⟩ := writeChar_cases c
  · rw [hchars, List.cons_append, List.singleton_append, scanString]
    · rw [hescape]
    · exact hunicode
  · rw [hchars, List.cons_append, List.cons_append, scanString]
    split
    · next x t hread =>
      cases (scanUnicode_hexPadded hcontrol hs).symm.trans hread
      rfl
    · next hread => cases (scanUnicode_hexPadded hcontrol hs).symm.trans hread
  · rw [hchars, List.singleton_append, scanString, if_neg hcontrol]
    all_goals simp_all

/-- A written string is read up to its closing quote. -/
theorem scanString_flatMap (start : Nat) (acc s rest : List Char) :
    scanString start acc (s.flatMap writeChar ++ '"' :: rest) = .ok (acc.reverse ++ s, rest) := by
  induction s generalizing acc with
  | nil => rw [List.flatMap_nil, List.nil_append, scanString, List.append_nil]
  | cons c s ih =>
    rw [List.flatMap_cons, List.append_assoc, scanString_writeChar _ _ _ (by simp), ih,
      List.reverse_cons, List.append_assoc, List.singleton_append]

theorem scanLeaf_writeString (s : String) (rest : List Char) :
    scanLeaf (writeString s.toList ++ rest) = .ok (.text s, rest) := by
  rw [writeString, List.cons_append, List.cons_append, List.append_assoc, scanLeaf,
    List.singleton_append, scanString_flatMap]
  simp

/-- A written name is read with the colon after it and the space before its value. -/
theorem scanName_writeString (name : String) {rest : List Char} (hrest : skipSpace rest = rest) :
    scanName (writeString name.toList ++ ':' :: ' ' :: rest) = .ok (name, rest) := by
  have hcolon : skipSpace (':' :: ' ' :: rest) = ':' :: ' ' :: rest := rfl
  have hspace : skipSpace (' ' :: rest) = rest := hrest
  rw [writeString, List.cons_append, List.cons_append, List.append_assoc, scanName,
    List.singleton_append, scanString_flatMap]
  simp [hcolon, hspace]

theorem skipSpace_writeString (s : String) (rest : List Char) :
    skipSpace (writeString s.toList ++ rest) = writeString s.toList ++ rest :=
  rfl

/-! ## Integers -/

theorem digitsValue_decimalChars (n : Nat) : digitsValue (decimalChars n) = n := by
  have hvalue := Nat.ofDigitChars_ten_toDigits (n := n)
  rwa [Nat.ofDigitChars_eq_foldl] at hvalue

theorem isDigitChar_of_mem_decimalChars {n : Nat} {c : Char} (h : c ∈ decimalChars n) :
    isDigitChar c = true := by
  have hdigit := Nat.isDigit_of_mem_toDigits (by decide) (by decide) h
  simpa [Char.isDigit, isDigitChar, Char.le_def] using hdigit

/-- The digits of a number start with a zero only if the number is zero. -/
theorem decimalChars_eq_cons (n : Nat) :
    n = 0 ∧ decimalChars n = ['0'] ∨
      ∃ d ds, decimalChars n = d :: ds ∧ ('1' ≤ d ∧ d ≤ '9') ∧ ∀ c ∈ ds, isDigitChar c = true := by
  induction n using Nat.strongRecOn with
  | ind n ih =>
    by_cases hn : n < 10
    · have hall : ∀ n < 10, n = 0 ∧ decimalChars n = ['0'] ∨
          '1' ≤ n.digitChar ∧ n.digitChar ≤ '9' := by decide
      refine (hall n hn).imp_right fun hdigit => ⟨n.digitChar, [], ?_, hdigit, nofun⟩
      exact Nat.toDigits_of_lt_base hn
    · have hdigits := Nat.toDigits_of_base_le (b := 10) (by decide) (Nat.le_of_not_lt hn)
      obtain ⟨hzero, -⟩ | ⟨d, ds, hds, hd, -⟩ := ih (n / 10) (by omega)
      · omega
      · have hchars : decimalChars n = d :: (ds ++ [(n % 10).digitChar]) := by
          rw [decimalChars] at hds ⊢
          rw [hdigits, hds, List.cons_append]
        refine .inr ⟨d, _, hchars, hd, fun c hc => ?_⟩
        exact isDigitChar_of_mem_decimalChars (hchars ▸ List.mem_cons_of_mem d hc)

/-- A value may end here: the text is over, or a comma or a closing bracket follows. -/
def EndsValue (s : List Char) : Prop :=
  ∀ c ∈ s.head?, c = ',' ∨ c = ']' ∨ c = '\x7d'

theorem EndsValue.takeWhile_append {ds rest : List Char} (h : EndsValue rest)
    (hds : ∀ c ∈ ds, isDigitChar c = true) :
    (ds ++ rest).takeWhile isDigitChar = ds ∧ (ds ++ rest).dropWhile isDigitChar = rest := by
  have hrest : rest.takeWhile isDigitChar = [] ∧ rest.dropWhile isDigitChar = rest := by
    cases rest with
    | nil => exact ⟨rfl, rfl⟩
    | cons c rest =>
      have hc : isDigitChar c = false := by
        obtain rfl | rfl | rfl := h c rfl <;> decide
      simp [hc]
  rw [List.takeWhile_append_of_pos hds, List.dropWhile_append_of_pos hds, hrest.1, hrest.2,
    List.append_nil]
  exact ⟨rfl, rfl⟩

theorem EndsValue.scanWhole? {rest : List Char} (h : EndsValue rest) (n : Nat) :
    scanWhole? (decimalChars n ++ rest) = some (decimalChars n, rest) := by
  obtain ⟨-, hchars⟩ | ⟨d, ds, hchars, hd, hds⟩ := decimalChars_eq_cons n
  · rw [hchars]
    rfl
  · have hzero : d ≠ '0' := by
      rintro rfl
      exact absurd hd.1 (by decide)
    obtain ⟨htake, hdrop⟩ := h.takeWhile_append hds
    rw [hchars, List.cons_append, Json.scanWhole?, if_pos hd, htake, hdrop]
    exact fun hd => hzero hd

/-- Nothing after a whole number makes a fraction or an exponent. -/
theorem EndsValue.finishNumber {rest : List Char} (h : EndsValue rest) (negative : Bool)
    {n : Nat} (hn : n < 10 ^ maxIntegerDigits) :
    finishNumber negative (decimalChars n) rest =
      (.ok (.integer (if negative then -(n : Int) else n)), rest) := by
  have hpoint : scanPoint rest = ([], rest) := by
    rw [scanPoint.eq_def]
    split
    · next r => obtain h | h | h := h '.' rfl <;> cases h
    · rfl
  have hexponent : (scanExponent rest).2 = rest := by
    cases rest with
    | nil => rfl
    | cons c r =>
      have hc : ¬ (c = 'e' ∨ c = 'E') := by
        obtain rfl | rfl | rfl := h c rfl <;> decide
      rw [scanExponent, if_neg hc]
  have hlength : (decimalChars n).length ≤ maxIntegerDigits :=
    (Nat.length_toDigits_le_iff (by decide) (by decide)).2 hn
  simp only [Json.finishNumber, hpoint, hexponent, if_true, digitsValue_decimalChars]
  rw [if_neg (Nat.not_lt.2 hlength)]

theorem decimalChars_eq_digit_cons (n : Nat) :
    ∃ d ds, decimalChars n = d :: ds ∧ ∀ c, isDigitChar c = false → c ≠ d := by
  obtain ⟨d, ds, hchars⟩ := List.exists_cons_of_ne_nil (Nat.toDigits_ne_nil (n := n) (b := 10))
  refine ⟨d, ds, hchars, ?_⟩
  rintro c hc rfl
  have hmem : c ∈ decimalChars n := by
    rw [decimalChars, hchars]
    exact List.mem_cons_self
  rw [isDigitChar_of_mem_decimalChars hmem] at hc
  cases hc

/-- No word that stands for a value starts like an integer. -/
theorem scanConstant?_writeInt (n : Int) (rest : List Char) :
    scanConstant? (writeInt n ++ rest) = none := by
  obtain ⟨d, ds, hchars, hd⟩ := decimalChars_eq_digit_cons n.natAbs
  rw [scanConstant?, Option.map_eq_none_iff, List.find?_eq_none, writeInt, hchars]
  split <;> simp (disch := decide) [constants, hd]

theorem scanNumber?_writeInt {n : Int} (hn : n.natAbs < 10 ^ maxIntegerDigits) {rest : List Char}
    (h : EndsValue rest) : scanNumber? (writeInt n ++ rest) = some (.ok (.integer n), rest) := by
  have hminus : scanMinus (writeInt n ++ rest) =
      (decide (n < 0), decimalChars n.natAbs ++ rest) := by
    obtain ⟨d, ds, hchars, hd⟩ := decimalChars_eq_digit_cons n.natAbs
    rw [writeInt]
    split
    · next hneg => simp [scanMinus, hneg]
    · next hneg =>
      rw [hchars, List.cons_append, scanMinus.eq_def]
      split
      · next heq => exact absurd (List.cons.inj heq).1.symm (hd '-' (by decide))
      · simp [hneg]
  rw [scanNumber?, hminus, h.scanWhole?, Option.map_some, h.finishNumber _ hn]
  simp only [decide_eq_true_eq]
  split <;> congr 4 <;> omega

theorem scanLeaf_writeInt {n : Int} (hn : n.natAbs < 10 ^ maxIntegerDigits) {rest : List Char}
    (h : EndsValue rest) : scanLeaf (writeInt n ++ rest) = .ok (.integer n, rest) := by
  have hquote : ∀ r, writeInt n ++ rest ≠ '"' :: r := by
    intro r heq
    obtain ⟨d, ds, hchars, hd⟩ := decimalChars_eq_digit_cons n.natAbs
    rw [writeInt, hchars] at heq
    split at heq
    · cases heq
    · exact hd '"' (by decide) (List.cons.inj heq).1.symm
  rw [scanLeaf.eq_def]
  split
  · next r heq => exact absurd heq (hquote r)
  · rw [scanConstant?_writeInt, scanNumber?_writeInt hn h]

/-! ## Documents -/

/-- Characters that no value starts with: spaces, closing brackets and the byte order mark. -/
def nonStarts : List Char := [' ', '\t', '\n', '\r', ']', '\x7d', '\uFEFF']

theorem exists_write_eq_cons {v : Data} (hv : v.IsPortable) :
    ∃ c s, write v = c :: s ∧ c ∉ nonStarts := by
  have hstarts : nonStarts.any isDigitChar = false := by decide
  cases v with
  | null => exact ⟨'n', _, by rw [write]; rfl, by decide⟩
  | bool b => cases b <;> exact ⟨_, _, by rw [write]; rfl, by decide⟩
  | integer n =>
    obtain ⟨d, ds, hchars, hd⟩ := decimalChars_eq_digit_cons n.natAbs
    rw [write, writeInt, hchars]
    split
    · exact ⟨'-', _, rfl, by decide⟩
    · refine ⟨d, _, rfl, fun hmem => ?_⟩
      exact hd d (Bool.eq_false_iff.2 (List.any_eq_false.1 hstarts d hmem)) rfl
  | number x => exact absurd hv (by simp [Data.IsPortable])
  | text s => exact ⟨'"', _, by rw [write, writeString]; rfl, by decide⟩
  | list items =>
    cases items with
    | nil => exact ⟨'[', _, by rw [write], by decide⟩
    | cons v vs => exact ⟨'[', _, by rw [write, List.cons_append], by decide⟩
  | object fields =>
    cases fields with
    | nil => exact ⟨'\x7b', _, by rw [write], by decide⟩
    | cons f fs => exact ⟨'\x7b', _, by rw [write, List.cons_append, List.cons_append], by decide⟩

/-- No space stands before a written value. -/
theorem skipSpace_write {v : Data} (hv : v.IsPortable) (rest : List Char) :
    skipSpace (write v ++ rest) = write v ++ rest := by
  obtain ⟨c, s, hchars, hc⟩ := exists_write_eq_cons hv
  have hspace : isSpace c = false := by
    simp only [nonStarts, List.mem_cons, not_or] at hc
    simp [isSpace, hc.1, hc.2.1, hc.2.2.1, hc.2.2.2.1]
  rw [hchars, List.cons_append, skipSpace, List.dropWhile_cons_of_neg (by simp [hspace])]

theorem write_ne_cons {v : Data} (hv : v.IsPortable) {c : Char} (hc : c ∈ nonStarts)
    (rest t : List Char) : write v ++ rest ≠ c :: t := by
  obtain ⟨d, s, hchars, hd⟩ := exists_write_eq_cons hv
  intro heq
  rw [hchars, List.cons_append] at heq
  exact hd ((List.cons.inj heq).1 ▸ hc)

theorem endsValue_writeItems (vs : List Data) (rest : List Char) :
    EndsValue (writeItems vs ++ rest) := by
  intro c hc
  cases vs with
  | nil =>
    rw [writeItems] at hc
    exact .inr (.inl (Option.some.inj hc).symm)
  | cons v vs =>
    rw [writeItems] at hc
    exact .inl (Option.some.inj hc).symm

theorem endsValue_writeFields (fs : List (String × Data)) (rest : List Char) :
    EndsValue (writeFields fs ++ rest) := by
  intro c hc
  cases fs with
  | nil =>
    rw [writeFields] at hc
    exact .inr (.inr (Option.some.inj hc).symm)
  | cons f fs =>
    rw [writeFields] at hc
    exact .inl (Option.some.inj hc).symm

/-! ## Steps of the reader -/

section Steps

variable (stack : List Frame)

/-- A leaf is read as a value, since no container starts like one. -/
theorem value_of_scanLeaf {s t : List Char} {v : Data} (h : scanLeaf s = .ok (v, t)) :
    Reader.value stack s = Reader.after stack v t := by
  have hopen : ∀ c ∈ ['\x7b', '['], ∀ r, s ≠ c :: r := by
    rintro c hc r rfl
    simp only [List.mem_cons, List.not_mem_nil, or_false] at hc
    obtain rfl | rfl := hc <;>
      simp [scanLeaf, scanConstant?, constants, scanNumber?, scanMinus, scanWhole?, fail] at h
  rw [Reader.value.eq_def]
  split
  · next r => exact absurd rfl (hopen _ (by decide) r)
  · next r => exact absurd rfl (hopen _ (by decide) r)
  · split
    · next hread =>
      cases h.symm.trans hread
      rfl
    · next hread => cases h.symm.trans hread

/-- A list that is not closed at once starts with its first item. -/
theorem value_list {t : List Char} (hspace : skipSpace t = t) (hopen : ∀ r, t ≠ ']' :: r) :
    Reader.value stack ('[' :: t) = Reader.value (.list [] :: stack) t := by
  rw [Reader.value]
  split
  · next r hclose => exact absurd (hspace.symm.trans hclose) (hopen r)
  · dsimp only
    rw [hspace]

/-- An object that is not closed at once starts with its first name. -/
theorem value_object {t u : List Char} {name : String} (hspace : skipSpace t = t)
    (hname : scanName t = .ok (name, u)) :
    Reader.value stack ('\x7b' :: t) = Reader.value (.object [] name :: stack) u := by
  rw [Reader.value]
  split
  · next r hclose =>
    rw [← hspace, hclose] at hname
    cases hname
  · split
    · next hread =>
      rw [hspace, hname] at hread
      cases hread
      rfl
    · next hread =>
      rw [hspace, hname] at hread
      cases hread

theorem after_list_comma (done : List Data) (v : Data) {t : List Char} (hspace : skipSpace t = t) :
    Reader.after (.list done :: stack) v (',' :: ' ' :: t) =
      Reader.value (.list (v :: done) :: stack) t := by
  have hcomma : skipSpace (',' :: ' ' :: t) = ',' :: ' ' :: t := rfl
  have hblank : skipSpace (' ' :: t) = t := hspace
  rw [Reader.after]
  split
  · next r heq =>
    cases hcomma.symm.trans heq
    dsimp only
    rw [hblank]
  · next heq => cases hcomma.symm.trans heq
  · next hne _ => exact absurd hcomma (hne _)

theorem after_list_close (done : List Data) (v : Data) (t : List Char) :
    Reader.after (.list done :: stack) v (']' :: t) =
      Reader.after stack (.list (v :: done).reverse) t := by
  have hclose : skipSpace (']' :: t) = ']' :: t := rfl
  rw [Reader.after]
  split
  · next heq => cases hclose.symm.trans heq
  · next r heq =>
    cases hclose.symm.trans heq
    rfl
  · next hne => exact absurd hclose (hne _)

theorem after_object_comma (done : List (String × Data)) (name : String) (v : Data)
    {t u : List Char} {next : String} (hspace : skipSpace t = t)
    (hname : scanName t = .ok (next, u)) :
    Reader.after (.object done name :: stack) v (',' :: ' ' :: t) =
      Reader.value (.object (Data.putField done name v) next :: stack) u := by
  have hcomma : skipSpace (',' :: ' ' :: t) = ',' :: ' ' :: t := rfl
  have hblank : skipSpace (' ' :: t) = t := hspace
  rw [Reader.after]
  split
  · next r heq =>
    cases hcomma.symm.trans heq
    split
    · next hread =>
      rw [hblank, hname] at hread
      cases hread
      rfl
    · next hread =>
      rw [hblank, hname] at hread
      cases hread
  · next heq => cases hcomma.symm.trans heq
  · next hne _ => exact absurd hcomma (hne _)

theorem after_object_close (done : List (String × Data)) (name : String) (v : Data)
    (t : List Char) :
    Reader.after (.object done name :: stack) v ('\x7d' :: t) =
      Reader.after stack (.object (Data.putField done name v)) t := by
  have hclose : skipSpace ('\x7d' :: t) = '\x7d' :: t := rfl
  rw [Reader.after]
  split
  · next heq => cases hclose.symm.trans heq
  · next r heq =>
    cases hclose.symm.trans heq
    rfl
  · next hne => exact absurd hclose (hne _)

end Steps

/-! ## Documents -/

mutual

/-- **A written value is read as the value**, whatever containers are open, if what follows may
follow a value. -/
theorem value_write (v : Data) (hv : v.IsPortable) (stack : List Frame) {rest : List Char}
    (hrest : EndsValue rest) :
    Reader.value stack (write v ++ rest) = Reader.after stack v rest := by
  cases v with
  | null => exact value_of_scanLeaf stack (by rw [write]; rfl)
  | bool b => exact value_of_scanLeaf stack (by cases b <;> rw [write] <;> rfl)
  | integer n =>
    rw [Data.IsPortable] at hv
    exact value_of_scanLeaf stack (by rw [write, scanLeaf_writeInt hv hrest])
  | number x => exact absurd hv (by simp [Data.IsPortable])
  | text s => exact value_of_scanLeaf stack (by rw [write, scanLeaf_writeString])
  | list items =>
    rw [Data.IsPortable] at hv
    cases items with
    | nil =>
      rw [write, Reader.value.eq_def]
      rfl
    | cons v vs =>
      rw [Data.ArePortable] at hv
      rw [write, List.cons_append, List.cons_append, List.append_assoc,
        value_list stack (skipSpace_write hv.1 _) (write_ne_cons hv.1 (by decide) _),
        value_write v hv.1 _ (endsValue_writeItems vs rest), after_writeItems vs hv.2]
      rfl
  | object fields =>
    rw [Data.IsPortable] at hv
    obtain ⟨hnames, hfields⟩ := hv
    cases fields with
    | nil =>
      rw [write, Reader.value.eq_def]
      rfl
    | cons f fs =>
      obtain ⟨name, v⟩ := f
      rw [Data.ArePortableFields] at hfields
      have hname := scanName_writeString name (skipSpace_write hfields.1 (writeFields fs ++ rest))
      have hspace := skipSpace_writeString name
        (':' :: ' ' :: (write v ++ (writeFields fs ++ rest)))
      rw [write, List.cons_append, List.cons_append]
      simp only [List.append_assoc, List.cons_append]
      rw [value_object stack hspace hname,
        value_write v hfields.1 _ (endsValue_writeFields fs rest),
        after_writeFields fs hfields.2 [] name v hnames]
      rfl

/-- The items of a written list are read one after the other. -/
theorem after_writeItems (vs : List Data) (hvs : Data.ArePortable vs) (done : List Data) (v : Data)
    (stack : List Frame) (rest : List Char) :
    Reader.after (.list done :: stack) v (writeItems vs ++ rest) =
      Reader.after stack (.list ((v :: done).reverse ++ vs)) rest := by
  cases vs with
  | nil =>
    rw [writeItems, List.singleton_append, after_list_close, List.append_nil]
  | cons w vs =>
    rw [Data.ArePortable] at hvs
    rw [writeItems, List.cons_append, List.cons_append, List.cons_append, List.cons_append,
      List.append_assoc, after_list_comma stack done v (skipSpace_write hvs.1 _),
      value_write w hvs.1 _ (endsValue_writeItems vs rest), after_writeItems vs hvs.2,
      List.reverse_cons, List.append_assoc, List.singleton_append]

/-- The fields of a written object are read one after the other. -/
theorem after_writeFields (fs : List (String × Data)) (hfs : Data.ArePortableFields fs)
    (done : List (String × Data)) (name : String) (v : Data)
    (hnames : ((done ++ (name, v) :: fs).map Prod.fst).Nodup)
    (stack : List Frame) (rest : List Char) :
    Reader.after (.object done name :: stack) v (writeFields fs ++ rest) =
      Reader.after stack (.object (done ++ (name, v) :: fs)) rest := by
  have hput : Data.putField done name v = done ++ [(name, v)] := by
    refine Data.putField_of_not_mem v fun hmem => ?_
    rw [List.map_append, List.map_cons] at hnames
    exact (List.nodup_append.1 hnames).2.2 _ hmem _ List.mem_cons_self rfl
  cases fs with
  | nil => rw [writeFields, List.singleton_append, after_object_close, hput]
  | cons f fs =>
    obtain ⟨next, w⟩ := f
    rw [Data.ArePortableFields] at hfs
    have hname := scanName_writeString next (skipSpace_write hfs.1 (writeFields fs ++ rest))
    have hspace := skipSpace_writeString next (':' :: ' ' :: (write w ++ (writeFields fs ++ rest)))
    rw [writeFields]
    simp only [List.append_assoc, List.cons_append]
    rw [after_object_comma stack done name v hspace hname, hput,
      value_write w hfs.1 _ (endsValue_writeFields fs rest),
      after_writeFields fs hfs.2 _ next w (by simpa using hnames)]
    simp

end

theorem render_ne_empty {v : Data} (hv : v.IsPortable) : render v ≠ "" := by
  obtain ⟨c, s, hchars, -⟩ := exists_write_eq_cons hv
  intro hempty
  have hlist := congrArg String.toList hempty
  rw [render, String.toList_ofList, hchars] at hlist
  cases hlist

/-- **Reading back.** The text of a value that a text carries is read as the value. -/
theorem read_render {v : Data} (hv : v.IsPortable) : read (render v) = .ok v := by
  obtain ⟨c, s, hchars, hc⟩ := exists_write_eq_cons hv
  have hdocument : readChars.document (write v) = .ok v := by
    have hspace := skipSpace_write hv []
    have hvalue := @value_write v hv [] [] nofun
    rw [List.append_nil] at hspace hvalue
    rw [readChars.document, hspace, hvalue, Reader.after]
    rfl
  have hmark : ¬ c.toNat = 0xFEFF := fun h =>
    hc (Char.toNat_inj.1 (h.trans (by decide : (0xFEFF : Nat) = '\uFEFF'.toNat)) ▸ by decide)
  rw [read, render, String.toList_ofList, hchars, readChars, if_neg hmark, ← hchars, hdocument]

end Json

end LayoutTree
