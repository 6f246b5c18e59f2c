import LayoutTree.Number.Double

/-!
# Structured data

The values that a JSON or YAML document holds after reading, and that a report prints. The fields
of an object keep the order of their first appearance; a field that appears again takes the later
value in place (`putField`). The main statements are `lookup_putField_self` and
`lookup_putField_ne`: a field reads back what was put last, and no other field changes.
-/

namespace LayoutTree

open LayoutTree.Number

/-- A structured value. -/
inductive Data
  /-- The absence of a value. -/
  | null
  /-- A truth value. -/
  | bool (b : Bool)
  /-- An integer of any size. -/
  | integer (n : Int)
  /-- A number of double precision. -/
  | number (x : Double)
  /-- A text. -/
  | text (s : String)
  /-- A list of values. -/
  | list (items : List Data)
  /-- Named values in order. -/
  | object (fields : List (String × Data))
  deriving Repr, Inhabited

namespace Data

/-- The fields with one value put in: in place of an earlier one, or at the end. -/
def putField (fields : List (String × Data)) (name : String) (value : Data) :
    List (String × Data) :=
  match fields with
  | [] => [(name, value)]
  | (k, v) :: rest => if k = name then (k, value) :: rest else (k, v) :: putField rest name value

/-- The value of a field. -/
def field? (fields : List (String × Data)) (name : String) : Option Data :=
  fields.lookup name

/-- The fields of an object. -/
def fields? : Data → Option (List (String × Data))
  | .object fields => some fields
  | _ => none

/-- Whether a value is an object or a list. -/
def isContainer : Data → Bool
  | .object _ => true
  | .list _ => true
  | _ => false

/-- Whether a value is something: neither absent, nor false, nor zero, nor empty. -/
def isSomething : Data → Bool
  | .null => false
  | .bool b => b
  | .integer n => n != 0
  | .number x => !Double.eq x (Double.zero false)
  | .text s => !s.isEmpty
  | .list items => !items.isEmpty
  | .object fields => !fields.isEmpty

/-- The value at a field of an object. -/
def at? : Data → String → Option Data
  | .object fields, name => field? fields name
  | _, _ => none

/-- A field reads back what was put last. -/
theorem lookup_putField_self (fields : List (String × Data)) (name : String) (value : Data) :
    field? (putField fields name value) name = some value := by
  induction fields with
  | nil => simp [putField, field?]
  | cons f rest ih =>
    obtain ⟨k, v⟩ := f
    by_cases h : k = name
    · simp [putField, field?, h]
    · have hne : (name == k) = false := by simpa using fun e => h e.symm
      simp only [field?] at ih
      simp [putField, field?, h, List.lookup_cons, hne, ih]

/-- Putting one field changes no other. -/
theorem lookup_putField_ne (fields : List (String × Data)) {name other : String} (value : Data)
    (h : other ≠ name) : field? (putField fields name value) other = field? fields other := by
  have hf : (other == name) = false := beq_eq_false_iff_ne.2 h
  induction fields with
  | nil => simp [putField, field?, List.lookup_cons, hf]
  | cons f rest ih =>
    obtain ⟨k, v⟩ := f
    simp only [field?] at ih
    by_cases hk : k = name
    · subst hk
      simp [putField, field?, List.lookup_cons, hf]
    · simp only [putField, hk, if_false, field?, List.lookup_cons, ih]

end Data

end LayoutTree
