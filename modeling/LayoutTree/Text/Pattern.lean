/-!
# Patterns

A pattern describes a set of texts. `Pattern.accepts` reads a text character by character and keeps
what the rest has to match, so every text is decided in one pass. The main statement is
`accepts_cons`, the step of that reading.
-/

namespace LayoutTree.Text

/-- A description of a set of texts. -/
inductive Pattern
  /-- No text. -/
  | never
  /-- The empty text. -/
  | nothing
  /-- A single character of a class. -/
  | one (isIn : Char → Bool)
  /-- A text of the first pattern and then one of the second. -/
  | both (first second : Pattern)
  /-- A text of either pattern. -/
  | either (left right : Pattern)
  /-- Any number of texts of a pattern. -/
  | many (p : Pattern)

namespace Pattern

/-- Whether the empty text matches. -/
def matchesEmpty : Pattern → Bool
  | never => false
  | nothing => true
  | one _ => false
  | both p q => p.matchesEmpty && q.matchesEmpty
  | either p q => p.matchesEmpty || q.matchesEmpty
  | many _ => true

/-- Two patterns in a row, simplified at the ends. -/
def joined : Pattern → Pattern → Pattern
  | never, _ => never
  | nothing, q => q
  | p, q => both p q

/-- One of two patterns, simplified where one of them is empty. -/
def union : Pattern → Pattern → Pattern
  | never, q => q
  | p, never => p
  | p, q => either p q

/-- What the rest has to match after a first character. -/
def after (c : Char) : Pattern → Pattern
  | never => never
  | nothing => never
  | one isIn => if isIn c then nothing else never
  | both p q =>
    if p.matchesEmpty then union (joined (after c p) q) (after c q) else joined (after c p) q
  | either p q => union (after c p) (after c q)
  | many p => joined (after c p) (many p)

/-- Whether a whole text matches. -/
def accepts (p : Pattern) : List Char → Bool
  | [] => p.matchesEmpty
  | c :: r => accepts (p.after c) r

theorem accepts_cons (p : Pattern) (c : Char) (r : List Char) :
    p.accepts (c :: r) = (p.after c).accepts r := rfl

/-! ## Building patterns -/

/-- A pattern or nothing. -/
def optional (p : Pattern) : Pattern := either nothing p

/-- One text of a pattern or more. -/
def some (p : Pattern) : Pattern := both p (many p)

/-- Patterns in a row. -/
def row (ps : List Pattern) : Pattern :=
  ps.foldr both nothing

/-- Any of several patterns. -/
def anyOf (ps : List Pattern) : Pattern :=
  ps.foldr either never

/-- A pattern a given number of times. -/
def times (n : Nat) (p : Pattern) : Pattern :=
  row (List.replicate n p)

/-- A single character of those given. -/
def oneOf (s : String) : Pattern :=
  one fun c => s.toList.contains c

/-- A single character. -/
def char (c : Char) : Pattern :=
  one (· == c)

/-- An ASCII digit. -/
def digit : Pattern :=
  one fun c => '0' ≤ c && c ≤ '9'

/-- An exact text. -/
def word (s : String) : Pattern :=
  row (s.toList.map char)

end Pattern

end LayoutTree.Text
