import LayoutTree.Number.Double
import LayoutTree.Text.Blank
import LayoutTree.Text.Digit
import LayoutTree.Text.Quoted

/-!
# Reading numbers

The grammar of integers and doubles in a text. Digits may come from any script, an underscore may
stand between two digits, and spaces around the number do not count. `scanDouble?` reads the longest
number at the start of a text; `readDouble` and `readInt` want the whole text. The main statement is
`scanDecimal?_length`: a scanned number consumes at least one character.
-/

namespace LayoutTree.Number

open LayoutTree.Text

/-- Why a text is not a number. -/
inductive ReadError
  /-- The text is not an integer in the given base. -/
  | notInteger (base : Nat) (text : String)
  /-- The integer has more digits than are converted. -/
  | tooLong (digits : Nat)
  /-- The text is not a number of double precision. -/
  | notDouble (text : String)
  /-- The underscores of a complex number do not all stand between digits. -/
  | misplacedUnderscore (text : String)
  /-- The text is not a complex number. -/
  | notComplex
  deriving DecidableEq, Repr

/-- The most digits that an integer may be written with. -/
def maxIntegerDigits : Nat := 4300

/-- The message of a failed reading. -/
def ReadError.message : ReadError → String
  | .notInteger base text =>
    "invalid literal for int() with base " ++ toString base ++ ": " ++ ((quoted text).take 200).toString
  | .tooLong digits =>
    "Exceeds the limit (" ++ toString maxIntegerDigits ++
      " digits) for integer string conversion: value has " ++ toString digits ++
      " digits; use sys.set_int_max_str_digits() to increase the limit"
  | .notDouble text => "could not convert string to float: " ++ quoted text
  | .misplacedUnderscore text => "could not convert string to complex: " ++ quoted text
  | .notComplex => "complex() arg is a malformed string"

/-! ## Characters -/

/-- A space that may stand around a number. -/
def isNumberSpace (c : Char) : Bool :=
  c = ' ' || (9 ≤ c.toNat && c.toNat ≤ 13)

/-- A text with blanks and digits of other scripts brought to ASCII. The first character of another
script that is neither ends the text as a question mark, which no number holds. -/
def plainChars : List Char → List Char
  | [] => []
  | c :: r =>
    if c.toNat < 128 then c :: plainChars r
    else if isBlank c then ' ' :: plainChars r
    else match digitValue? c with
      | some d => Char.ofNat (48 + d) :: plainChars r
      | none => ['?']

/-- A text brought to ASCII, without spaces around it. -/
def plainText (s : List Char) : List Char :=
  let t := (plainChars s).dropWhile isNumberSpace
  (t.reverse.dropWhile isNumberSpace).reverse

/-- Whether a character is an ASCII digit. -/
def isDigitChar (c : Char) : Bool :=
  '0' ≤ c && c ≤ '9'

/-- The number that a list of ASCII digits stands for. -/
def digitsValue (ds : List Char) : Nat :=
  ds.foldl (fun n c => 10 * n + (c.toNat - 48)) 0

/-- Whether every underscore stands between two digits, where `before` tells whether the character
before the text is a digit. -/
def underscoresFit (before : Bool) : List Char → Bool
  | [] => true
  | '_' :: c :: r => before && isDigitChar c && underscoresFit true r
  | ['_'] => false
  | c :: r => underscoresFit (isDigitChar c) r

/-- The text without underscores, if all of them stand between two digits. Underscores are looked
for up to the first NUL, and a text that has one may not hold a NUL. -/
def dropUnderscores? (s : List Char) : Option (List Char) :=
  let visible := s.takeWhile (· != '\x00')
  if visible.contains '_' then
    if underscoresFit false visible && visible.length == s.length then
      some (s.filter (· != '_'))
    else none
  else some s

/-! ## Doubles -/

/-- A sign at the start of a text: whether it is a minus, and the rest. -/
def scanSign : List Char → Bool × List Char
  | '-' :: r => (true, r)
  | '+' :: r => (false, r)
  | s => (false, s)

/-- Whether a text starts with a word in lower case, its own case not counted. -/
def startsWithWord (word s : List Char) : Bool :=
  word.isPrefixOf ((s.take word.length).map Char.toLower)

/-- An exponent at the start of a text, if there is a complete one. -/
def scanExponent : List Char → Int × List Char
  | [] => (0, [])
  | e :: r =>
    if e = 'e' ∨ e = 'E' then
      let (negative, t) := scanSign r
      let ds := t.takeWhile isDigitChar
      if ds.isEmpty then (0, e :: r)
      else
        let n : Int := digitsValue ds
        (if negative then -n else n, t.dropWhile isDigitChar)
    else (0, e :: r)

/-- The digits after a decimal point at the start of a text. -/
def scanFraction : List Char → List Char × List Char
  | '.' :: r => (r.takeWhile isDigitChar, r.dropWhile isDigitChar)
  | s => ([], s)

/-- The digits of an unsigned number at the start of a text, with the exponent of ten that belongs
to them. -/
def scanDecimal? (s : List Char) : Option (Nat × Int × List Char) :=
  let whole := s.takeWhile isDigitChar
  let (fraction, r) := scanFraction (s.dropWhile isDigitChar)
  if whole.isEmpty && fraction.isEmpty then none
  else
    let (e, rest) := scanExponent r
    some (digitsValue (whole ++ fraction), e - fraction.length, rest)

/-- The longest number at the start of a text, and the rest. -/
def scanDouble? (s : List Char) : Option (Double × List Char) :=
  let (negative, t) := scanSign s
  match scanDecimal? t with
  | some (digits, e, rest) => some (Double.ofDecimal negative digits e, rest)
  | none =>
    if startsWithWord "infinity".toList t then some (.infinite negative, t.drop 8)
    else if startsWithWord "inf".toList t then some (.infinite negative, t.drop 3)
    else if startsWithWord "nan".toList t then some (.nan, t.drop 3)
    else none

/-- A text read as a double. -/
def readDouble? (s : List Char) : Option Double :=
  match (dropUnderscores? (plainText s)).bind scanDouble? with
  | some (x, []) => some x
  | _ => none

/-- A string read as a double. -/
def readDouble (s : String) : Except ReadError Double :=
  match readDouble? s.toList with
  | some x => .ok x
  | none => .error (.notDouble s)

/-! ## Integers -/

/-- The value of a digit in bases up to thirty-six. -/
def baseDigit? (base : Nat) (c : Char) : Option Nat :=
  let n := c.toNat
  let d :=
    if 48 ≤ n ∧ n ≤ 57 then n - 48
    else if 97 ≤ n ∧ n ≤ 122 then n - 87
    else if 65 ≤ n ∧ n ≤ 90 then n - 55
    else base
  if d < base then some d else none

/-- Digits of a base with single underscores between them, after `count` digits of value `acc`. -/
def readBaseDigits? (base : Nat) (acc count : Nat) : List Char → Option (Nat × Nat)
  | [] => if count = 0 then none else some (acc, count)
  | '_' :: c :: r =>
    if count = 0 then none
    else (baseDigit? base c).bind fun d => readBaseDigits? base (base * acc + d) (count + 1) r
  | c :: r =>
    (baseDigit? base c).bind fun d => readBaseDigits? base (base * acc + d) (count + 1) r

/-- The text without the mark that numbers of base sixteen may start with. -/
def dropBaseMark (base : Nat) : List Char → List Char
  | '0' :: x :: '_' :: r => if base = 16 ∧ (x = 'x' ∨ x = 'X') then r else '0' :: x :: '_' :: r
  | '0' :: x :: r => if base = 16 ∧ (x = 'x' ∨ x = 'X') then r else '0' :: x :: r
  | s => s

/-- A string read as an integer of a base. -/
def readInt (base : Nat) (s : String) : Except ReadError Int :=
  let (negative, t) := scanSign (plainText s.toList)
  match readBaseDigits? base 0 0 (dropBaseMark base t) with
  | none => .error (.notInteger base s)
  | some (n, count) =>
    if base = 10 ∧ maxIntegerDigits < count then .error (.tooLong count)
    else .ok (if negative then -(n : Int) else n)

/-! ## Scanning consumes -/

theorem scanSign_length (s : List Char) : (scanSign s).2.length ≤ s.length := by
  unfold scanSign
  split <;> simp

theorem length_dropWhile_le (p : Char → Bool) (s : List Char) :
    (s.dropWhile p).length ≤ s.length := by
  induction s with
  | nil => simp
  | cons c r ih =>
    by_cases h : p c
    · simp [h]; omega
    · simp [h]

theorem scanExponent_length (s : List Char) : (scanExponent s).2.length ≤ s.length := by
  cases s with
  | nil => simp [scanExponent]
  | cons e r =>
    simp only [scanExponent]
    split
    · split
      · simp
      · have h1 := length_dropWhile_le isDigitChar (scanSign r).2
        have h2 := scanSign_length r
        simp only [List.length_cons]
        omega
    · simp

theorem length_takeWhile_add_dropWhile (p : Char → Bool) (s : List Char) :
    (s.takeWhile p).length + (s.dropWhile p).length = s.length := by
  rw [← List.length_append, List.takeWhile_append_dropWhile]

theorem scanFraction_length (s : List Char) :
    (scanFraction s).1.length + (scanFraction s).2.length ≤ s.length := by
  unfold scanFraction
  split
  · next r =>
    have := length_takeWhile_add_dropWhile isDigitChar r
    simp only [List.length_cons]
    omega
  · simp

/-- A decimal number at the start of a text consumes at least one character. -/
theorem scanDecimal?_length {s rest : List Char} {n : Nat} {e : Int}
    (h : scanDecimal? s = some (n, e, rest)) : rest.length < s.length := by
  simp only [scanDecimal?] at h
  split at h
  · exact absurd h (by simp)
  · next hne =>
    simp only [Option.some.injEq, Prod.mk.injEq] at h
    have h1 := length_takeWhile_add_dropWhile isDigitChar s
    have h2 := scanFraction_length (s.dropWhile isDigitChar)
    have h3 := scanExponent_length (scanFraction (s.dropWhile isDigitChar)).2
    rw [h.2.2] at h3
    have : 0 < (s.takeWhile isDigitChar).length + (scanFraction (s.dropWhile isDigitChar)).1.length := by
      simp only [Bool.and_eq_true, List.isEmpty_iff] at hne
      rcases Nat.eq_zero_or_pos ((s.takeWhile isDigitChar).length +
        (scanFraction (s.dropWhile isDigitChar)).1.length) with h0 | h0
      · exact absurd ⟨List.length_eq_zero_iff.1 (by omega), List.length_eq_zero_iff.1 (by omega)⟩ hne
      · exact h0
    omega

end LayoutTree.Number
