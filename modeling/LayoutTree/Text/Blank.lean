/-!
# Blank characters, trimming and lines

Which characters count as blank, what trimming removes, and where a text breaks into lines. A line
ends at any of ten boundary characters; a carriage return and the line feed after it are one
boundary. The main statements are `trimStart_trimStart` (a trimmed text has nothing left to trim)
and `lines_append_newline` (a line feed closes the line before it and opens the next).
-/

namespace LayoutTree.Text

/-- Whether a character is blank: the separators of Unicode and the ASCII layout controls. -/
def isBlank (c : Char) : Bool :=
  let n := c.toNat
  (9 ≤ n && n ≤ 13) || (28 ≤ n && n ≤ 32) || n == 0x85 || n == 0xA0 || n == 0x1680 ||
    (0x2000 ≤ n && n ≤ 0x200A) || n == 0x2028 || n == 0x2029 || n == 0x202F || n == 0x205F ||
    n == 0x3000

/-- Whether a character ends a line. -/
def isLineBreak (c : Char) : Bool :=
  let n := c.toNat
  (10 ≤ n && n ≤ 13) || (28 ≤ n && n ≤ 30) || n == 0x85 || n == 0x2028 || n == 0x2029

/-- Every line boundary is blank. -/
theorem isBlank_of_isLineBreak {c : Char} (h : isLineBreak c = true) : isBlank c = true := by
  simp only [isLineBreak, isBlank, Bool.or_eq_true, Bool.and_eq_true, decide_eq_true_eq,
    beq_iff_eq] at *
  omega

/-! ## Trimming -/

/-- The text without the blanks at its start. -/
def trimStart (s : List Char) : List Char :=
  s.dropWhile isBlank

/-- The text without the blanks at its end. -/
def trimEnd (s : List Char) : List Char :=
  (s.reverse.dropWhile isBlank).reverse

/-- The text without the blanks at both ends. -/
def trim (s : List Char) : List Char :=
  trimEnd (trimStart s)

/-- How many blanks stand before the text. -/
def indentation (s : List Char) : Nat :=
  (s.takeWhile isBlank).length

/-- Whether a text holds nothing but blanks. -/
def isBlankText (s : List Char) : Bool :=
  s.all isBlank

theorem trimStart_cons_of_not_blank {c : Char} (s : List Char) (h : isBlank c = false) :
    trimStart (c :: s) = c :: s := by
  simp [trimStart, h]

theorem trimStart_trimStart (s : List Char) : trimStart (trimStart s) = trimStart s := by
  induction s with
  | nil => rfl
  | cons c r ih =>
    by_cases h : isBlank c
    · simpa [trimStart, h] using ih
    · simp [trimStart, h]

theorem trimEnd_trimEnd (s : List Char) : trimEnd (trimEnd s) = trimEnd s := by
  have := trimStart_trimStart s.reverse
  simp only [trimStart] at this
  simp [trimEnd, this]

/-! ## Lines -/

/-- The lines of a text whose current line starts with `current`, latest character first. The flag
tells whether the character before was a carriage return, which has closed its line already. -/
def linesFrom (current : List Char) (afterReturn : Bool) : List Char → List (List Char)
  | [] => if current.isEmpty then [] else [current.reverse]
  | c :: r =>
    if afterReturn && c == '\n' then linesFrom [] false r
    else if isLineBreak c then current.reverse :: linesFrom [] (c == '\r') r
    else linesFrom (c :: current) false r

/-- The lines of a text without their boundaries. A boundary at the end opens no further line. -/
def lines (s : List Char) : List (List Char) :=
  linesFrom [] false s

theorem linesFrom_of_no_break {l : List Char} (h : ∀ c ∈ l, isLineBreak c = false)
    (current rest : List Char) :
    linesFrom current false (l ++ '\n' :: rest) = (current.reverse ++ l) :: lines rest := by
  induction l generalizing current with
  | nil => simp [linesFrom, lines, isLineBreak]
  | cons c l ih =>
    have hc := h c (by simp)
    simp [linesFrom, hc, ih (fun d hd => h d (by simp [hd]))]

/-- A line feed closes the line before it and opens the next. -/
theorem lines_append_newline {l : List Char} (h : ∀ c ∈ l, isLineBreak c = false)
    (rest : List Char) : lines (l ++ '\n' :: rest) = l :: lines rest :=
  linesFrom_of_no_break h [] rest

/-- A text in which every line ends with a single line feed, whatever ended it before: a carriage
return alone, or one with its line feed, becomes a line feed. -/
def normalizeNewlines : List Char → List Char
  | [] => []
  | '\r' :: '\n' :: r => '\n' :: normalizeNewlines r
  | '\r' :: r => '\n' :: normalizeNewlines r
  | c :: r => c :: normalizeNewlines r

/-- The text without the byte order mark that may stand first. -/
def dropByteOrderMark : List Char → List Char
  | [] => []
  | c :: r => if c.toNat = 0xFEFF then r else c :: r

end LayoutTree.Text
