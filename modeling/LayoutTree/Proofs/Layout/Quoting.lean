import LayoutTree.Layout.Fragment
import LayoutTree.Text.Alphanumeric

/-!
# Quoted values

Any text can be written as the value of a property: between double quotes, with a backslash before
quotes and backslashes and with escapes for the ends of lines (`enclosed`). Cutting a line into
fragments and looking for equals signs pass over such a value (`Solid`), and reading it gives the
text back (`readProperty_assignment`). Names are left as they are; they are free of the characters
that mean something in a line (`IsName`).

* `splitFragments_cons`: the fragments of a line are the pieces that it was put together from.
-/

namespace LayoutTree.Layout

open LayoutTree.Text

/-! ## Writing -/

/-- A character of a quoted value. -/
def escapeChar (c : Char) : List Char :=
  if c = '\n' then ['\\', 'n']
  else if c = '\r' then ['\\', 'r']
  else if c = '\\' ∨ c = '"' then ['\\', c]
  else [c]

/-- A text without quotes, backslashes and ends of lines that stand for themselves. -/
def escape (s : List Char) : List Char :=
  s.flatMap escapeChar

/-- A text between quotes. -/
def enclosed (s : List Char) : List Char :=
  '"' :: (escape s ++ ['"'])

/-- A property with its value between quotes. -/
def assignment (name value : List Char) : List Char :=
  name ++ '=' :: enclosed value

/-- The characters that mean something in a layout, whatever form it is written in. -/
def marks : List Char := ['=', ';', '"', '\\', '#', '\x7b', '\x7d']

/-- Whether a character can stand in a name. -/
def isNameChar (c : Char) : Bool :=
  !isBlank c && !marks.contains c

/-- A name is not empty and free of blanks and marks. -/
structure IsName (s : List Char) : Prop where
  ne_nil : s ≠ []
  chars : ∀ c ∈ s, isNameChar c = true

theorem isBlank_of_isNameChar {c : Char} (h : isNameChar c = true) : isBlank c = false := by
  simp only [isNameChar, Bool.and_eq_true, Bool.not_eq_true'] at h
  exact h.1

theorem ne_of_isNameChar {c m : Char} (h : isNameChar c = true) (hm : m ∈ marks) : c ≠ m := by
  rintro rfl
  simp only [isNameChar, Bool.and_eq_true, Bool.not_eq_true', List.contains_eq_mem,
    decide_eq_false_iff_not] at h
  exact h.2 hm

instance (s : List Char) : Decidable (IsName s) :=
  decidable_of_iff (s ≠ [] ∧ s.all isNameChar = true)
    ⟨fun h => ⟨h.1, List.all_eq_true.1 h.2⟩, fun h => ⟨h.ne_nil, List.all_eq_true.2 h.chars⟩⟩

theorem isAlphanumeric_eq_false_of_isBlank {c : Char} (h : isBlank c = true) :
    isAlphanumeric c = false := by
  have hascii : ∀ n : Fin 33, alphanumerics.contains n = false := by decide +kernel
  have hspaces : ∀ n : Fin 11, alphanumerics.contains (0x2000 + n) = false := by decide +kernel
  have hothers : ∀ n ∈ [0x85, 0xA0, 0x1680, 0x2028, 0x2029, 0x202F, 0x205F, 0x3000],
      alphanumerics.contains n = false := by decide +kernel
  simp only [isBlank, Bool.or_eq_true, Bool.and_eq_true, decide_eq_true_eq, beq_iff_eq] at h
  have hcases : c.toNat < 33 ∨ (∃ k, k < 11 ∧ c.toNat = 0x2000 + k) ∨
      c.toNat ∈ [0x85, 0xA0, 0x1680, 0x2028, 0x2029, 0x202F, 0x205F, 0x3000] := by
    by_cases hspace : 0x2000 ≤ c.toNat ∧ c.toNat ≤ 0x200A
    · exact Or.inr (Or.inl ⟨c.toNat - 0x2000, by omega, by omega⟩)
    · simp only [List.mem_cons, List.not_mem_nil, or_false]
      omega
  rw [isAlphanumeric, CodeSet.containsChar]
  rcases hcases with hlt | ⟨k, hk, heq⟩ | hmem
  · exact hascii ⟨c.toNat, hlt⟩
  · rw [heq]
    exact hspaces ⟨k, hk⟩
  · exact hothers _ hmem

/-- **Words are names**: letters, digits and underscores are neither blanks nor marks. -/
theorem isName_of_word {s : List Char} (hne : s ≠ [])
    (h : ∀ c ∈ s, isAlphanumeric c = true ∨ c = '_') : IsName s := by
  refine ⟨hne, fun c hc => ?_⟩
  rcases h c hc with halpha | rfl
  · have hmarks : (marks.all fun m => !isAlphanumeric m) = true := by decide +kernel
    have hblank : isBlank c = false := Bool.eq_false_iff.2 fun hblank =>
      Bool.false_ne_true ((isAlphanumeric_eq_false_of_isBlank hblank).symm.trans halpha)
    have hmark : c ∉ marks := fun hmark => by
      simpa [halpha] using List.all_eq_true.1 hmarks c hmark
    simp [isNameChar, hblank, hmark]
  · decide

/-! ## Escapes -/

theorem unescape_cons_of_ne {c : Char} (h : c ≠ '\\') (s : List Char) :
    unescape (c :: s) = c :: unescape s := by
  rw [unescape]
  · exact fun hc _ => h hc
  · exact fun _ _ hc => absurd hc h

theorem unescape_escapeChar (c : Char) (s : List Char) :
    unescape (escapeChar c ++ s) = c :: unescape s := by
  rw [escapeChar]
  split
  · next h => subst h; rfl
  · split
    · next h => subst h; rfl
    · split
      · next h => rcases h with rfl | rfl <;> rfl
      · next h => exact unescape_cons_of_ne (fun hc => h (Or.inl hc)) s

/-- Reading the escapes of a text gives it back. -/
theorem unescape_escape (s : List Char) : unescape (escape s) = s := by
  induction s with
  | nil => rfl
  | cons c s ih =>
    rw [escape, List.flatMap_cons, unescape_escapeChar, ← escape, ih]

theorem stripQuotes_enclosed (s : List Char) : stripQuotes (enclosed s) = escape s := by
  simp [stripQuotes, enclosed]

theorem stripQuotes_of_head_ne {s : List Char} (h : ∀ c ∈ s.head?, c ≠ '"') :
    stripQuotes s = s := by
  unfold stripQuotes
  split
  · exact absurd rfl (h '"' rfl)
  · rfl

theorem stripQuotes_of_notMem {s : List Char} (h : '"' ∉ s) : stripQuotes s = s :=
  stripQuotes_of_head_ne fun _ hc heq => h (heq ▸ List.mem_of_head? hc)

/-! ## Trimming -/

/-- A text that begins and ends with something else than a blank. -/
structure IsTight (s : List Char) : Prop where
  head : ∃ c, s.head? = some c ∧ isBlank c = false
  last : ∃ c, s.getLast? = some c ∧ isBlank c = false

namespace IsTight

variable {s t : List Char}

theorem ne_nil (h : IsTight s) : s ≠ [] := by
  rintro rfl
  obtain ⟨c, hc, -⟩ := h.head
  cases hc

/-- There is nothing to trim. -/
theorem trim_eq (h : IsTight s) : trim s = s := by
  have hdrop : ∀ {t : List Char} {c : Char}, t.head? = some c → isBlank c = false →
      t.dropWhile isBlank = t := by
    intro t c ht hc
    obtain ⟨t, rfl⟩ := List.head?_eq_some_iff.1 ht
    rw [List.dropWhile_cons_of_neg (by simp [hc])]
  obtain ⟨c, hc, hblank⟩ := h.head
  obtain ⟨d, hd, hblank'⟩ := h.last
  rw [trim, trimStart, hdrop hc hblank, trimEnd, hdrop (List.head?_reverse.trans hd) hblank',
    List.reverse_reverse]

theorem append (hs : IsTight s) (middle : List Char) (ht : IsTight t) :
    IsTight (s ++ (middle ++ t)) where
  head := by
    obtain ⟨c, hc, hblank⟩ := hs.head
    exact ⟨c, by simp [List.head?_append, hc], hblank⟩
  last := by
    obtain ⟨c, hc, hblank⟩ := ht.last
    exact ⟨c, by simp [List.getLast?_append, hc], hblank⟩

end IsTight

theorem isTight_of_isName {s : List Char} (h : IsName s) : IsTight s := by
  have hlast := List.getLast?_eq_some_getLast h.ne_nil
  exact ⟨⟨s.head h.ne_nil, List.head?_eq_some_head h.ne_nil,
      isBlank_of_isNameChar (h.chars _ (List.head_mem h.ne_nil))⟩,
    ⟨_, hlast, isBlank_of_isNameChar (h.chars _ (List.getLast_mem h.ne_nil))⟩⟩

theorem trim_of_isNameChar {s : List Char} (h : ∀ c ∈ s, isNameChar c = true) : trim s = s := by
  by_cases hnil : s = []
  · rw [hnil]
    rfl
  · exact (isTight_of_isName ⟨hnil, h⟩).trim_eq

theorem isTight_enclosed (s : List Char) : IsTight (enclosed s) :=
  ⟨⟨'"', rfl, rfl⟩, ⟨'"', by simp [enclosed, List.getLast?_cons], rfl⟩⟩

theorem isTight_assignment {name : List Char} (h : IsName name) (value : List Char) :
    IsTight (assignment name value) :=
  (isTight_of_isName h).append ['='] (isTight_enclosed value)

/-! ## Fragments -/

/-- A piece of a line that is part of one fragment, whatever stands before and after it. -/
def Solid (isSep : Char → Bool) (s : List Char) : Prop :=
  ∀ current rest, fragmentsFrom isSep false false current (s ++ rest) =
    fragmentsFrom isSep false false (s.reverse ++ current) rest

theorem Solid.append {isSep : Char → Bool} {s t : List Char} (hs : Solid isSep s)
    (ht : Solid isSep t) : Solid isSep (s ++ t) := by
  intro current rest
  rw [List.append_assoc, hs, ht, List.reverse_append, List.append_assoc]

theorem solid_of_forall {isSep : Char → Bool} {s : List Char}
    (h : ∀ c ∈ s, c ≠ '\\' ∧ c ≠ '"' ∧ isSep c = false) : Solid isSep s := by
  induction s with
  | nil => exact fun _ _ => rfl
  | cons c s ih =>
    intro current rest
    obtain ⟨hslash, hquote, hsep⟩ := h c List.mem_cons_self
    rw [List.cons_append, fragmentsFrom, if_neg Bool.false_ne_true, if_neg hslash, if_neg hquote,
      if_neg (by simp [hsep]), ih fun d hd => h d (List.mem_cons_of_mem _ hd)]
    simp

/-- Between quotes, an escaped character is passed over. -/
theorem fragmentsFrom_escapeChar (isSep : Char → Bool) (c : Char) (current rest : List Char) :
    fragmentsFrom isSep true false current (escapeChar c ++ rest) =
      fragmentsFrom isSep true false ((escapeChar c).reverse ++ current) rest := by
  rw [escapeChar]
  split
  · rfl
  · split
    · rfl
    · split
      · next h => rcases h with rfl | rfl <;> rfl
      · next h =>
        obtain ⟨hslash, hquote⟩ := not_or.1 h
        simp [fragmentsFrom, hslash, hquote]

theorem fragmentsFrom_escape (isSep : Char → Bool) (s current rest : List Char) :
    fragmentsFrom isSep true false current (escape s ++ rest) =
      fragmentsFrom isSep true false ((escape s).reverse ++ current) rest := by
  induction s generalizing current with
  | nil => rfl
  | cons c s ih =>
    rw [escape, List.flatMap_cons, List.append_assoc, fragmentsFrom_escapeChar, ← escape, ih,
      List.reverse_append, List.append_assoc]

theorem solid_enclosed (isSep : Char → Bool) (s : List Char) : Solid isSep (enclosed s) := by
  intro current rest
  have hopen : fragmentsFrom isSep false false current ('"' :: (escape s ++ '"' :: rest)) =
      fragmentsFrom isSep true false ('"' :: current) (escape s ++ '"' :: rest) := rfl
  rw [enclosed, List.cons_append, List.append_assoc, List.singleton_append, hopen,
    fragmentsFrom_escape]
  simp [fragmentsFrom]

theorem solid_of_isNameChar {s : List Char} (h : ∀ c ∈ s, isNameChar c = true) :
    Solid (· == ';') s :=
  solid_of_forall fun c hc =>
    ⟨ne_of_isNameChar (h c hc) (by decide), ne_of_isNameChar (h c hc) (by decide),
      by simpa using ne_of_isNameChar (h c hc) (by decide : ';' ∈ marks)⟩

theorem solid_assignment {name : List Char} (h : ∀ c ∈ name, isNameChar c = true)
    (value : List Char) : Solid (· == ';') (assignment name value) := by
  refine (solid_of_isNameChar h).append ?_
  have heq : Solid (· == ';') ['='] := solid_of_forall (by simp)
  exact heq.append (solid_enclosed _ value)

/-- A piece of a line that is a fragment of its own. -/
structure IsPiece (s : List Char) : Prop where
  tight : IsTight s
  solid : Solid (· == ';') s

theorem consFragment_reverse (p : List Char) (rest : List (List Char)) :
    consFragment p.reverse (rest.filter (· ≠ [])) = (trim p :: rest).filter (· ≠ []) := by
  by_cases h : trim p = [] <;> simp [consFragment, h]

/-- A line that is put together from solid parts is cut into these, trimmed, without those that are
blank. -/
theorem splitFragments_of_solid {p : List Char} {ps : List (List Char)}
    (hp : Solid (· == ';') p) (hps : ∀ q ∈ ps, Solid (· == ';') q) :
    splitFragments (· == ';') (p ++ ps.flatMap (';' :: ·)) =
      ((p :: ps).map trim).filter (· ≠ []) := by
  rw [splitFragments, hp, List.append_nil]
  induction ps generalizing p with
  | nil => exact consFragment_reverse p []
  | cons q ps ih =>
    have hq := hps q List.mem_cons_self
    rw [List.flatMap_cons, List.cons_append, fragmentsFrom, if_neg Bool.false_ne_true,
      if_neg (by decide), if_neg (by decide), if_pos (by decide), hq, List.append_nil,
      ih hq fun r hr => hps r (List.mem_cons_of_mem _ hr)]
    exact consFragment_reverse p _

/-- **A line that is put together from pieces** is cut into these pieces. -/
theorem splitFragments_cons {p : List Char} {ps : List (List Char)} (hp : IsPiece p)
    (hps : ∀ q ∈ ps, IsPiece q) :
    splitFragments (· == ';') (p ++ ps.flatMap (';' :: ·)) = p :: ps := by
  have hpieces : ∀ q ∈ p :: ps, IsPiece q := List.forall_mem_cons.2 ⟨hp, hps⟩
  have htrim : (p :: ps).map trim = p :: ps :=
    (List.map_congr_left fun q hq => (hpieces q hq).tight.trim_eq).trans (List.map_id' _)
  rw [splitFragments_of_solid hp.solid fun q hq => (hps q hq).solid, htrim, List.filter_eq_self]
  exact fun q hq => decide_eq_true (hpieces q hq).tight.ne_nil

/-! ## Assignments -/

theorem assignmentFrom_of_isNameChar {s : List Char} (h : ∀ c ∈ s, isNameChar c = true)
    (index : Nat) (rest : List Char) : assignmentFrom index false false (s ++ rest) =
      assignmentFrom (index + s.length) false false rest := by
  induction s generalizing index with
  | nil => rfl
  | cons c s ih =>
    have hc := h c List.mem_cons_self
    rw [List.cons_append, assignmentFrom, if_neg Bool.false_ne_true,
      if_neg (ne_of_isNameChar hc (by decide)), if_neg (ne_of_isNameChar hc (by decide)),
      if_neg (by simp [ne_of_isNameChar hc (by decide : '=' ∈ marks)]),
      ih fun d hd => h d (List.mem_cons_of_mem _ hd), List.length_cons]
    congr 1
    omega

/-- A name alone assigns nothing. -/
theorem findAssignment_of_isNameChar {s : List Char} (h : ∀ c ∈ s, isNameChar c = true) :
    findAssignment s = none := by
  have hscan := assignmentFrom_of_isNameChar h 0 []
  rw [List.append_nil] at hscan
  rw [findAssignment, hscan]
  rfl

theorem findAssignment_assignment {name : List Char} (h : ∀ c ∈ name, isNameChar c = true)
    (value : List Char) : findAssignment (assignment name value) = some name.length := by
  rw [findAssignment, assignment, assignmentFrom_of_isNameChar h, Nat.zero_add]
  rfl

/-- **A property reads back** as it was written. -/
theorem readProperty_assignment {name : List Char} (h : ∀ c ∈ name, isNameChar c = true)
    (value : List Char) :
    readProperty (assignment name value) = ⟨String.ofList name, some (String.ofList value)⟩ := by
  have htake : (assignment name value).take name.length = name := List.take_left
  have hdrop : (assignment name value).drop (name.length + 1) = enclosed value := by
    rw [assignment, ← List.drop_drop, List.drop_left]
    rfl
  simp only [readProperty, findAssignment_assignment h, htake, hdrop, trim_of_isNameChar h,
    (isTight_enclosed value).trim_eq, stripQuotes_enclosed, unescape_escape]

theorem isPiece_of_isName {s : List Char} (h : IsName s) : IsPiece s :=
  ⟨isTight_of_isName h, solid_of_isNameChar h.chars⟩

theorem isPiece_assignment {name : List Char} (h : IsName name) (value : List Char) :
    IsPiece (assignment name value) :=
  ⟨isTight_assignment h value, solid_assignment h.chars value⟩

end LayoutTree.Layout
