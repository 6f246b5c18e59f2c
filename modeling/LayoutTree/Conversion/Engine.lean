import LayoutTree.Conversion.Converter
import LayoutTree.Conversion.Structural

/-!
# Conversion

Raw values become values of a type: nothing and the empty text become the zero of the type
(`Target.zero`), anything else is left to the first converter that claims the type, or to its
structure where none does (`Conversion.convert`).

A `ConversionEngine` remembers which converter serves which type until its converters change. What
it remembers never shows: `find_eq` says that it answers as if it looked every time.
-/

namespace LayoutTree

open LayoutTree.Number

/-- The zero of a type that can be looked up. -/
def Target.zeroOfKey : Target → Except ConversionFault Value
  | .text => .ok (.text "")
  | .integer => .ok (.integer 0)
  | .number => .ok (.number 0)
  | .truth => .ok (.truth false)
  | .decimal => .ok (.decimal (.finite false 0 0))
  | .complex => .ok (.complex ⟨0, 0⟩)
  | .object => .ok (.instance "object")
  | .bytes => .ok (.bytes .empty)
  | .time => .ok (.time .midnight)
  | .duration => .ok (.duration ⟨0⟩)
  | .path => .ok (.path ⟨.relative, []⟩)
  | .enumeration e =>
    match e.members with
    | [] => .ok .none
    | m :: _ => .ok (.member e.name m.1)
  | .record k => .ok ((Record.read k []).toOption.getD .none)
  | .kind name .object => .ok (.instance name)
  | .kind _ .incomplete => .ok .none
  | .kind _ (.fails message) => .error (.noObject message)
  | _ => .ok .none

/-- The zero of a type. -/
def Target.zero (t : Target) : Except ConversionFault Value :=
  if t.isKey then t.zeroOfKey else .error .noKey

namespace Conversion

/-- The first converter that serves a type. -/
def find? (converters : Chain Converter) (t : Target) : Option Converter :=
  converters.find? fun c => c.claims t

/-- What the refusal of a converter means for the conversion. -/
def faultOf (value : String) (t : Target) : Refusal → ConversionFault
  | .cause c => .failure (.malformed value t c)
  | .own message => .failure (.refused message)

/-- A text that is not empty converted by the converter that serves its type, or else by structure.
-/
def apply (found : Option Converter) (value : String) (t : Target) : Except ConversionFault Value :=
  match found with
  | some c => (c.convert value t).mapError (faultOf value t)
  | none =>
    if !t.isKey then .error (.failure (.noConverter value t))
    else
      match Structural.fault? t with
      | some fault => .error fault
      | none => Structural.convert value t

/-- A raw value converted to a type that does not allow absence, given the look-up of converters. -/
def convertWith (find : Target → Option Converter) (value : Option String) (t : Target) :
    Except ConversionFault Value :=
  match value with
  | none => t.zero
  | some value =>
    if value.isEmpty then t.zero
    else if t = .any ∨ t = .object then .ok (.text value)
    else apply (find t) value t

/-- A raw value converted to a type. -/
def convert (converters : Chain Converter) (value : Option String) (t : Target) :
    Except ConversionFault Value :=
  convertWith (find? converters) value t.unwrapped

end Conversion

/-! ## Remembering -/

/-- Converters, and which of them serves a type, as far as is remembered. -/
structure ConversionEngine where
  /-- The converters in the order in which they are asked. -/
  converters : Chain Converter
  /-- The types that were looked up, each with the converter that serves it. -/
  known : List (Target × Option Converter)

namespace ConversionEngine

/-- An engine that remembers nothing yet. -/
def ofConverters (converters : Chain Converter) : ConversionEngine := ⟨converters, []⟩

/-- The engine of the library. -/
def standard : ConversionEngine := .ofConverters Converter.standard

/-- The engine with one converter asked before all others. -/
def register (e : ConversionEngine) (c : Converter) : ConversionEngine :=
  .ofConverters (e.converters.register c)

/-- The engine without the first converter of a key, and whether there was one. -/
def remove (e : ConversionEngine) (key : String) : Bool × ConversionEngine :=
  if e.converters.contains key then (true, .ofConverters (e.converters.remove key)) else (false, e)

/-- The converter that serves a type, and the engine that remembers it. -/
def find (e : ConversionEngine) (t : Target) : Option Converter × ConversionEngine :=
  match e.known.lookup t with
  | some found => (found, e)
  | none =>
    let found := Conversion.find? e.converters t
    (found, if t.isKey then { e with known := (t, found) :: e.known } else e)

/-- Whether a converter serves a type, absence aside. -/
def canConvert (e : ConversionEngine) (t : Target) : Bool × ConversionEngine :=
  let (found, e) := e.find t.unwrapped
  (found.isSome, e)

/-- Whether the conversion of a raw value to a type looks for a converter. -/
def looksUp (value : Option String) (t : Target) : Bool :=
  !(value.getD "").isEmpty && !(t = .any || t = .object)

/-- A raw value converted to a type, and the engine that remembers the look-up. -/
def convert (e : ConversionEngine) (value : Option String) (t : Target) :
    Except ConversionFault Value × ConversionEngine :=
  let t := t.unwrapped
  let (found, e') := if looksUp value t then e.find t else (none, e)
  (Conversion.convertWith (fun _ => found) value t, e')

theorem converters_remove (e : ConversionEngine) (key : String) :
    (e.remove key).2.converters = e.converters.remove key := by
  rw [remove]
  split
  · rfl
  · next h => rw [Chain.remove_of_not_contains _ (by simpa using h)]

/-- What the engine remembers is what it would find. -/
def Faithful (e : ConversionEngine) : Prop :=
  ∀ t found, (t, found) ∈ e.known → found = Conversion.find? e.converters t

theorem faithful_ofConverters (c : Chain Converter) : (ofConverters c).Faithful := by
  simp [Faithful, ofConverters]

theorem find_eq {e : ConversionEngine} (h : e.Faithful) (t : Target) :
    (e.find t).1 = Conversion.find? e.converters t := by
  simp only [find]
  split
  · next found hf =>
    exact h t found (mem_of_lookup hf)
  · rfl
where
  mem_of_lookup {l : List (Target × Option Converter)} {t : Target} {found : Option Converter}
      (h : l.lookup t = some found) : (t, found) ∈ l := by
    induction l with
    | nil => simp at h
    | cons p l ih =>
      obtain ⟨a, b⟩ := p
      by_cases ha : t = a
      · subst ha
        simp only [List.lookup_cons, beq_self_eq_true, Option.some.injEq] at h
        simp [h]
      · have : (t == a) = false := by simpa using ha
        simp only [List.lookup_cons, this] at h
        exact List.mem_cons_of_mem _ (ih h)

theorem faithful_find {e : ConversionEngine} (h : e.Faithful) (t : Target) :
    (e.find t).2.Faithful := by
  simp only [find]
  split
  · exact h
  · split
    · intro u found hu
      rcases List.mem_cons.1 hu with heq | hu
      · simp only [Prod.mk.injEq] at heq
        rw [heq.1, heq.2]
      · exact h u found hu
    · exact h

end ConversionEngine

end LayoutTree
