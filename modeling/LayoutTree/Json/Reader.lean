import LayoutTree.Data
import LayoutTree.Number.Read

/-!
# Reading JSON

A JSON text is read from left to right by two mutually recursive steps over a stack of the
containers that are still open: `Reader.value` expects a value, and `Reader.after` continues after
one that is complete. Every step consumes a character, so the length of the text bounds the run. A
failure keeps its cause and what was left of the text, from which the line and column follow.
Besides the standard the reader takes `NaN`, `Infinity` and `-Infinity`. The main statements are the
lemmas that each lexeme consumes text (`scanString_length`, `scanNumber?_length`).
-/

namespace LayoutTree.Json

open LayoutTree.Number LayoutTree.Text

/-- Why a text is not JSON. -/
inductive Cause
  /-- A value should stand here. -/
  | expectingValue
  /-- The name of a field should stand here. -/
  | expectingName
  /-- A colon should stand here. -/
  | expectingColon
  /-- A comma or the end of the container should stand here. -/
  | expectingComma
  /-- Text follows the document. -/
  | extraData
  /-- A string has no end. -/
  | unterminated
  /-- A control character stands in a string. -/
  | controlCharacter
  /-- A backslash stands before a character that it cannot escape. -/
  | invalidEscape
  /-- Four hexadecimal digits should follow. -/
  | invalidUnicodeEscape
  /-- The text starts with a byte order mark. -/
  | byteOrderMark
  /-- An integer has too many digits. -/
  | longInteger (digits : Nat)
  deriving DecidableEq, Repr

/-- The message of a cause. -/
def Cause.message : Cause → String
  | .expectingValue => "Expecting value"
  | .expectingName => "Expecting property name enclosed in double quotes"
  | .expectingColon => "Expecting ':' delimiter"
  | .expectingComma => "Expecting ',' delimiter"
  | .extraData => "Extra data"
  | .unterminated => "Unterminated string starting at"
  | .controlCharacter => "Invalid control character at"
  | .invalidEscape => "Invalid \\escape"
  | .invalidUnicodeEscape => "Invalid \\uXXXX escape"
  | .byteOrderMark => "Unexpected UTF-8 BOM (decode using utf-8-sig)"
  | .longInteger n => (ReadError.tooLong n).message

/-- A failure: its cause, and how many characters were left where it arose. -/
structure Failure where
  cause : Cause
  left : Nat
  deriving DecidableEq, Repr

/-- A failure at the start of a text. -/
def fail {α : Type} (cause : Cause) (s : List Char) : Except Failure α :=
  .error ⟨cause, s.length⟩

/-- Whether a character may stand between the parts of a document. -/
def isSpace (c : Char) : Bool :=
  c == ' ' || c == '\t' || c == '\n' || c == '\r'

/-- The text without the space before its next part. -/
def skipSpace (s : List Char) : List Char :=
  s.dropWhile isSpace

theorem skipSpace_length (s : List Char) : (skipSpace s).length ≤ s.length :=
  length_dropWhile_le isSpace s

/-! ## Strings -/

/-- The value of a hexadecimal digit. -/
def hexValue? (c : Char) : Option Nat :=
  baseDigit? 16 c

/-- The number that four hexadecimal digits stand for. -/
def hex4? (a b c d : Char) : Option Nat := do
  let w ← hexValue? a
  let x ← hexValue? b
  let y ← hexValue? c
  let z ← hexValue? d
  return ((w * 16 + x) * 16 + y) * 16 + z

/-- The character that a plain escape stands for. -/
def escape? : Char → Option Char
  | '"' => some '"'
  | '\\' => some '\\'
  | '/' => some '/'
  | 'b' => some '\x08'
  | 'f' => some '\x0c'
  | 'n' => some '\n'
  | 'r' => some '\r'
  | 't' => some '\t'
  | _ => none

/-- The character for half a surrogate pair that stands alone. -/
def replacement : Char := '\uFFFD'

/-- The character of a code unit that is no part of a pair. -/
def unitChar (n : Nat) : Char :=
  if 0xD800 ≤ n ∧ n < 0xE000 then replacement else Char.ofNat n

/-- Whether a code unit opens a surrogate pair. -/
def opensPair (n : Nat) : Bool :=
  0xD800 ≤ n && n < 0xDC00

/-- Whether a code unit closes a surrogate pair. -/
def closesPair (n : Nat) : Bool :=
  0xDC00 ≤ n && n < 0xE000

/-- The character of a surrogate pair. -/
def pairChar (hi lo : Nat) : Char :=
  Char.ofNat (0x10000 + (hi - 0xD800) * 0x400 + (lo - 0xDC00))

/-- The character of a `\u` escape, read from the text after the `u`, and the rest. Four digits at
the very end of a text do not count as a complete escape. -/
def scanUnicode (s : List Char) : Except Failure (Char × List Char) :=
  match s with
  | a :: b :: c :: d :: e :: r =>
    match hex4? a b c d with
    | none => .error ⟨.invalidUnicodeEscape, s.length + 1⟩
    | some hi =>
      match e, r with
      | '\\', 'u' :: f :: g :: h :: i :: j :: t =>
        if opensPair hi then
          match hex4? f g h i with
          | none => .error ⟨.invalidUnicodeEscape, t.length + 6⟩
          | some lo =>
            if closesPair lo then .ok (pairChar hi lo, j :: t) else .ok (unitChar hi, e :: r)
        else .ok (unitChar hi, e :: r)
      | _, _ => .ok (unitChar hi, e :: r)
  | _ => .error ⟨.invalidUnicodeEscape, s.length + 1⟩

theorem scanUnicode_length {s rest : List Char} {c : Char} (h : scanUnicode s = .ok (c, rest)) :
    rest.length ≤ s.length := by
  unfold scanUnicode at h
  split at h
  · split at h
    · exact absurd h (by simp)
    · split at h
      · split at h
        · split at h
          · exact absurd h (by simp)
          · split at h <;>
              simp only [Except.ok.injEq, Prod.mk.injEq] at h <;> rw [← h.2] <;> simp
        · simp only [Except.ok.injEq, Prod.mk.injEq] at h
          rw [← h.2]
          simp
      · simp only [Except.ok.injEq, Prod.mk.injEq] at h
        rw [← h.2]
        simp
  · exact absurd h (by simp)

/-- The characters of a string up to its closing quote, and the text after it. `start` is the length
of the text from the opening quote on. -/
def scanString (start : Nat) (acc : List Char) (s : List Char) :
    Except Failure (List Char × List Char) :=
  match s with
  | [] => .error ⟨.unterminated, start⟩
  | '"' :: r => .ok (acc.reverse, r)
  | '\\' :: 'u' :: r =>
    match h : scanUnicode r with
    | .ok (x, t) =>
      have : t.length < r.length + 1 + 1 := by
        have := scanUnicode_length h
        omega
      scanString start (x :: acc) t
    | .error e => .error e
  | '\\' :: c :: r =>
    match escape? c with
    | some x => scanString start (x :: acc) r
    | none => .error ⟨.invalidEscape, r.length + 2⟩
  | ['\\'] => .error ⟨.unterminated, start⟩
  | c :: r =>
    if c.toNat < 32 then .error ⟨.controlCharacter, r.length + 1⟩
    else scanString start (c :: acc) r
termination_by s.length

/-- A string consumes its closing quote at least. -/
theorem scanString_length {start : Nat} {acc s str rest : List Char}
    (h : scanString start acc s = .ok (str, rest)) : rest.length < s.length := by
  fun_induction scanString start acc s with
  | case1 => simp at h
  | case2 =>
    simp only [Except.ok.injEq, Prod.mk.injEq] at h
    simp [← h.2]
  | case3 acc r x t hu hlt ih =>
    have := ih h
    simp only [List.length_cons]
    omega
  | case4 => simp at h
  | case5 acc c r _ x _ ih =>
    have := ih h
    simp only [List.length_cons]
    omega
  | case6 => simp at h
  | case7 => simp at h
  | case8 => simp at h
  | case9 acc c r _ _ _ _ _ ih =>
    have := ih h
    simp only [List.length_cons]
    omega

/-! ## Numbers -/

/-- The digits of a whole number without a leading zero, and the rest. -/
def scanWhole? : List Char → Option (List Char × List Char)
  | '0' :: r => some (['0'], r)
  | c :: r =>
    if '1' ≤ c ∧ c ≤ '9' then some (c :: r.takeWhile isDigitChar, r.dropWhile isDigitChar) else none
  | [] => none

/-- The digits after a point, if there are any. -/
def scanPoint (s : List Char) : List Char × List Char :=
  match s with
  | '.' :: r =>
    if (r.takeWhile isDigitChar).isEmpty then ([], s)
    else (r.takeWhile isDigitChar, r.dropWhile isDigitChar)
  | _ => ([], s)

/-- A minus sign at the start of a text, and the rest. -/
def scanMinus : List Char → Bool × List Char
  | '-' :: r => (true, r)
  | s => (false, s)

/-- The number of a whole part `ds` and the text after it. Without a fraction and an exponent it is
an integer. -/
def finishNumber (negative : Bool) (ds r : List Char) : Except Cause Data × List Char :=
  let fraction := scanPoint r
  let exponent := scanExponent fraction.2
  if exponent.2.length = r.length then
    if maxIntegerDigits < ds.length then (.error (.longInteger ds.length), r)
    else (.ok (.integer (if negative then -(digitsValue ds : Int) else digitsValue ds)), r)
  else
    (.ok (.number (Double.ofDecimal negative (digitsValue (ds ++ fraction.1))
      (exponent.1 - fraction.1.length))), exponent.2)

/-- A number at the start of a text. -/
def scanNumber? (s : List Char) : Option (Except Cause Data × List Char) :=
  (scanWhole? (scanMinus s).2).map fun w => finishNumber (scanMinus s).1 w.1 w.2

theorem scanWhole?_length {s ds rest : List Char} (h : scanWhole? s = some (ds, rest)) :
    rest.length < s.length := by
  unfold scanWhole? at h
  split at h
  · simp_all
  · split at h
    · simp only [Option.some.injEq, Prod.mk.injEq] at h
      have := length_dropWhile_le isDigitChar
      rw [← h.2]
      exact Nat.lt_succ_of_le (this _)
    · exact absurd h (by simp)
  · exact absurd h (by simp)

theorem scanPoint_length (s : List Char) : (scanPoint s).2.length ≤ s.length := by
  unfold scanPoint
  split
  · next r =>
    split
    · simp
    · have := length_dropWhile_le isDigitChar r
      simp only [List.length_cons]
      omega
  · simp

theorem scanMinus_length (s : List Char) : (scanMinus s).2.length ≤ s.length := by
  unfold scanMinus
  split <;> simp

theorem finishNumber_length (negative : Bool) (ds r : List Char) :
    (finishNumber negative ds r).2.length ≤ r.length := by
  have h1 := scanPoint_length r
  have h2 := scanExponent_length (scanPoint r).2
  simp only [finishNumber]
  split
  · split <;> simp
  · simp only
    omega

/-- A number consumes at least one character. -/
theorem scanNumber?_length {s rest : List Char} {v : Except Cause Data}
    (h : scanNumber? s = some (v, rest)) : rest.length < s.length := by
  simp only [scanNumber?, Option.map_eq_some_iff] at h
  obtain ⟨⟨ds, r⟩, hw, he⟩ := h
  have h1 := scanWhole?_length hw
  have h2 := finishNumber_length (scanMinus s).1 ds r
  have h3 := scanMinus_length s
  rw [he] at h2
  simp only at h2
  omega

/-! ## Documents -/

/-- The words that stand for a value of their own. -/
def constants : List (List Char × Data) := [
  ("null".toList, .null), ("true".toList, .bool true), ("false".toList, .bool false),
  ("NaN".toList, .number .nan), ("Infinity".toList, .number (.infinite false)),
  ("-Infinity".toList, .number (.infinite true))]

/-- A constant at the start of a text, and the rest. -/
def scanConstant? (s : List Char) : Option (Data × List Char) :=
  (constants.find? fun (w, _) => w.isPrefixOf s).map fun (w, v) => (v, s.drop w.length)

theorem scanConstant?_length {s rest : List Char} {v : Data}
    (h : scanConstant? s = some (v, rest)) : rest.length < s.length := by
  simp only [scanConstant?, Option.map_eq_some_iff] at h
  obtain ⟨⟨w, d⟩, hf, he⟩ := h
  have hp := List.find?_some hf
  have hm := List.mem_of_find?_eq_some hf
  obtain ⟨t, rfl⟩ := List.isPrefixOf_iff_prefix.1 hp
  simp only [Prod.mk.injEq] at he
  rw [← he.2]
  have : 0 < w.length := by
    simp only [constants, List.mem_cons, Prod.mk.injEq, List.not_mem_nil, or_false] at hm
    rcases hm with h | h | h | h | h | h <;> rw [h.1] <;> decide
  simp only [List.drop_left, List.length_append]
  omega

/-- A container that is still open: the values read so far, latest first, and for an object the
name that waits for its value. -/
inductive Frame
  | list (done : List Data)
  | object (done : List (String × Data)) (name : String)

/-- A leaf at the start of a text: a string, a constant or a number. -/
def scanLeaf (s : List Char) : Except Failure (Data × List Char) :=
  match s with
  | '"' :: r =>
    match scanString s.length [] r with
    | .ok (str, rest) => .ok (.text (String.ofList str), rest)
    | .error e => .error e
  | _ =>
    match scanConstant? s with
    | some (v, rest) => .ok (v, rest)
    | none =>
      match scanNumber? s with
      | some (.ok v, rest) => .ok (v, rest)
      | some (.error c, _) => fail c s
      | none => fail .expectingValue s

theorem scanLeaf_length {s rest : List Char} {v : Data} (h : scanLeaf s = .ok (v, rest)) :
    rest.length < s.length := by
  unfold scanLeaf at h
  split at h
  · next r =>
    split at h
    · next str rest' hs =>
      simp only [Except.ok.injEq, Prod.mk.injEq] at h
      have := scanString_length hs
      rw [← h.2]
      simp only [List.length_cons]
      omega
    · exact absurd h (by simp)
  · split at h
    · next v' rest' hs =>
      simp only [Except.ok.injEq, Prod.mk.injEq] at h
      exact h.2 ▸ scanConstant?_length hs
    · split at h
      · next v' rest' hs =>
        simp only [Except.ok.injEq, Prod.mk.injEq] at h
        exact h.2 ▸ scanNumber?_length hs
      · exact absurd h (by simp [fail])
      · exact absurd h (by simp [fail])

/-- The name of a field with the colon after it, and the text at its value. -/
def scanName (s : List Char) : Except Failure (String × List Char) :=
  match s with
  | '"' :: r =>
    match scanString s.length [] r with
    | .ok (str, rest) =>
      match skipSpace rest with
      | ':' :: t => .ok (String.ofList str, skipSpace t)
      | t => fail .expectingColon t
    | .error e => .error e
  | _ => fail .expectingName s

theorem scanName_length {s rest : List Char} {name : String} (h : scanName s = .ok (name, rest)) :
    rest.length < s.length := by
  unfold scanName at h
  split at h
  · next r =>
    split at h
    · next str rest' hs =>
      have h1 := scanString_length hs
      have h2 := skipSpace_length rest'
      split at h
      · next t ht =>
        simp only [Except.ok.injEq, Prod.mk.injEq] at h
        have h3 := skipSpace_length t
        rw [← h.2]
        rw [ht] at h2
        simp only [List.length_cons] at *
        omega
      · exact absurd h (by simp [fail])
    · exact absurd h (by simp)
  · exact absurd h (by simp [fail])

namespace Reader

mutual

/-- Reads the value at the start of the text inside of the open containers. -/
def value (stack : List Frame) (s : List Char) : Except Failure (Data × List Char) :=
  match s with
  | '{' :: r =>
    have hr := skipSpace_length r
    match h : skipSpace r with
    | '}' :: t =>
      have : t.length < r.length + 1 := by rw [h, List.length_cons] at hr; omega
      after stack (.object []) t
    | t =>
      match hn : scanName t with
      | .ok (name, u) =>
        have : u.length < r.length + 1 := by have := scanName_length hn; rw [h] at hr; omega
        value (.object [] name :: stack) u
      | .error e => .error e
  | '[' :: r =>
    have hr := skipSpace_length r
    match h : skipSpace r with
    | ']' :: t =>
      have : t.length < r.length + 1 := by rw [h, List.length_cons] at hr; omega
      after stack (.list []) t
    | t =>
      have : t.length < r.length + 1 := by rw [h] at hr; omega
      value (.list [] :: stack) t
  | s =>
    match hl : scanLeaf s with
    | .ok (v, t) =>
      have := scanLeaf_length hl
      after stack v t
    | .error e => .error e
termination_by s.length

/-- Continues after a complete value: the next one, the end of a container, or the end. -/
def after (stack : List Frame) (v : Data) (s : List Char) : Except Failure (Data × List Char) :=
  match stack with
  | [] => .ok (v, s)
  | .list done :: outer =>
    have hs := skipSpace_length s
    match h : skipSpace s with
    | ',' :: r =>
      have : (skipSpace r).length < s.length := by
        have := skipSpace_length r
        rw [h, List.length_cons] at hs
        omega
      value (.list (v :: done) :: outer) (skipSpace r)
    | ']' :: r =>
      have : r.length < s.length := by rw [h, List.length_cons] at hs; omega
      after outer (.list (v :: done).reverse) r
    | r => fail .expectingComma r
  | .object done name :: outer =>
    have hs := skipSpace_length s
    match h : skipSpace s with
    | ',' :: r =>
      match hn : scanName (skipSpace r) with
      | .ok (next, u) =>
        have : u.length < s.length := by
          have := skipSpace_length r
          have := scanName_length hn
          rw [h, List.length_cons] at hs
          omega
        value (.object (Data.putField done name v) next :: outer) u
      | .error e => .error e
    | '}' :: r =>
      have : r.length < s.length := by rw [h, List.length_cons] at hs; omega
      after outer (.object (Data.putField done name v)) r
    | r => fail .expectingComma r
termination_by s.length

end

end Reader

/-- The value of a JSON text. -/
def readChars (s : List Char) : Except Failure Data :=
  match s with
  | c :: _ => if c.toNat = 0xFEFF then fail .byteOrderMark s else document s
  | [] => document s
where
  /-- One value with nothing but space around it. -/
  document (s : List Char) : Except Failure Data :=
    match Reader.value [] (skipSpace s) with
    | .ok (v, rest) =>
      match skipSpace rest with
      | [] => .ok v
      | r => fail .extraData r
    | .error e => .error e

/-- Where a failure arose: line and column, both counted from zero. -/
def Failure.position (e : Failure) (s : List Char) : Nat × Nat :=
  let before := s.take (s.length - e.left)
  (before.count '\n', (before.reverse.takeWhile (· != '\n')).length)

/-- The value of a JSON string. -/
def read (s : String) : Except Failure Data :=
  readChars s.toList

end LayoutTree.Json
