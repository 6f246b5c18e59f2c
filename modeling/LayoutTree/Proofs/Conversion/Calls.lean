import LayoutTree.Conversion.Engine

/-!
# Calls to a conversion engine

Converters are registered and removed, types are looked up and values converted, in any order
(`EngineCall`). An engine answers the calls from what it remembers (`EngineCall.run`). The same
calls can be answered from the converters alone, which look anew each time and remember nothing
(`EngineCall.look`).

An engine serves converters if these are its converters and it remembers nothing but what it would
find among them (`Serves`). An engine serves the converters that it starts with, and one call keeps
this, whether it changes the converters or looks something up (`Serves.run`). So what the engine
remembers never shows: the main statement is `answerAll_run`.
-/

namespace LayoutTree

/-- A call to an engine. -/
inductive EngineCall
  /-- A converter is put in front. -/
  | register (c : Converter)
  /-- The first converter of a key is taken out. -/
  | remove (key : String)
  /-- The converter that serves a type is looked up. -/
  | find (t : Target)
  /-- It is asked whether a converter serves a type, absence aside. -/
  | canConvert (t : Target)
  /-- A raw value is converted to a type. -/
  | convert (value : Option String) (t : Target)

/-- The answer to a call. -/
inductive EngineAnswer
  | registered
  /-- Whether there was a converter to take out. -/
  | removed (was : Bool)
  /-- The converter that serves a type, if one does. -/
  | found (c : Option Converter)
  /-- Whether a converter serves a type. -/
  | serves (does : Bool)
  /-- The value, or why there is none. -/
  | converted (r : Except ConversionFault Value)

namespace EngineCall

/-- The answer of an engine, and the engine after the call. -/
def run (e : ConversionEngine) : EngineCall → EngineAnswer × ConversionEngine
  | register c => (.registered, e.register c)
  | remove key => (.removed (e.remove key).1, (e.remove key).2)
  | find t => (.found (e.find t).1, (e.find t).2)
  | canConvert t => (.serves (e.canConvert t).1, (e.canConvert t).2)
  | convert value t => (.converted (e.convert value t).1, (e.convert value t).2)

/-- The answer of converters that are gone through for each call, and the converters after it. -/
def look (cs : Chain Converter) : EngineCall → EngineAnswer × Chain Converter
  | register c => (.registered, cs.register c)
  | remove key => (.removed (cs.contains key), cs.remove key)
  | find t => (.found (Conversion.find? cs t), cs)
  | canConvert t => (.serves (Conversion.find? cs t.unwrapped).isSome, cs)
  | convert value t => (.converted (Conversion.convert cs value t), cs)

/-- The answers to calls made one after the other, and what is left after them. -/
def answerAll {σ : Type} (answer : σ → EngineCall → EngineAnswer × σ) (s : σ) :
    List EngineCall → List EngineAnswer × σ
  | [] => ([], s)
  | call :: rest =>
    let first := answer s call
    let others := answerAll answer first.2 rest
    (first.1 :: others.1, others.2)

end EngineCall

/-! ## What an engine remembers -/

namespace ConversionEngine

variable {e : ConversionEngine} {cs : Chain Converter}

theorem converters_find (e : ConversionEngine) (t : Target) :
    (e.find t).2.converters = e.converters := by
  rw [find]
  split
  · rfl
  · dsimp only
    split <;> rfl

/-- An engine has these converters and remembers nothing but what it would find among them. -/
structure Serves (e : ConversionEngine) (cs : Chain Converter) : Prop where
  converters : e.converters = cs
  faithful : e.Faithful

namespace Serves

/-- An engine that remembers nothing serves its converters. -/
theorem ofConverters (cs : Chain Converter) : (ConversionEngine.ofConverters cs).Serves cs :=
  ⟨rfl, faithful_ofConverters cs⟩

theorem register (h : e.Serves cs) (c : Converter) : (e.register c).Serves (cs.register c) := by
  rw [ConversionEngine.register, h.converters]
  exact ofConverters _

/-- Taking out a converter forgets everything, and nothing is forgotten where none is taken out. -/
theorem remove (h : e.Serves cs) (key : String) :
    (e.remove key).1 = cs.contains key ∧ (e.remove key).2.Serves (cs.remove key) := by
  obtain ⟨rfl, hfaithful⟩ := h
  have hconverters := e.converters_remove key
  rw [ConversionEngine.remove] at hconverters ⊢
  split at hconverters
  · next hc => exact ⟨(if_pos hc ▸ hc.symm), if_pos hc ▸ ofConverters _⟩
  · next hc =>
    rw [if_neg hc]
    exact ⟨(Bool.not_eq_true _ ▸ hc).symm, hconverters, hfaithful⟩

/-- A look-up finds the first converter that claims the type, and remembers it. -/
theorem find (h : e.Serves cs) (t : Target) :
    (e.find t).1 = Conversion.find? cs t ∧ (e.find t).2.Serves cs := by
  obtain ⟨rfl, hfaithful⟩ := h
  exact ⟨find_eq hfaithful t, converters_find e t, faithful_find hfaithful t⟩

theorem canConvert (h : e.Serves cs) (t : Target) :
    (e.canConvert t).1 = (Conversion.find? cs t.unwrapped).isSome ∧
      (e.canConvert t).2.Serves cs := by
  obtain ⟨hfound, hserves⟩ := h.find t.unwrapped
  exact ⟨congrArg Option.isSome hfound, hserves⟩

end Serves

end ConversionEngine

/-- A conversion depends on the look-up of its type only, and on none if it looks for no
converter. -/
theorem Conversion.convertWith_congr {value : Option String} {t : Target}
    {find find' : Target → Option Converter}
    (h : ConversionEngine.looksUp value t = true → find t = find' t) :
    convertWith find value t = convertWith find' value t := by
  cases value with
  | none => rfl
  | some value =>
    simp only [convertWith]
    split
    · rfl
    · next hvalue =>
      split
      · rfl
      · next ht =>
        rw [h]
        simpa [ConversionEngine.looksUp, hvalue] using ht

/-- A text that is not empty goes to the converter that serves the type. -/
theorem Conversion.convert_eq_apply (converters : Chain Converter) {value : String}
    (hvalue : value ≠ "") {t u : Target} (ht : t.unwrapped = u) (hany : u ≠ .any)
    (hobject : u ≠ .object) :
    convert converters (some value) t = apply (find? converters u) value u := by
  rw [convert, ht, convertWith, if_neg (mt String.isEmpty_iff.1 hvalue),
    if_neg (not_or.2 ⟨hany, hobject⟩)]

namespace ConversionEngine

theorem Serves.convert {e : ConversionEngine} {cs : Chain Converter} (h : e.Serves cs)
    (value : Option String) (t : Target) :
    (e.convert value t).1 = Conversion.convert cs value t ∧ (e.convert value t).2.Serves cs := by
  obtain ⟨hfound, hserves⟩ := h.find t.unwrapped
  rw [ConversionEngine.convert, Conversion.convert]
  dsimp only
  split
  · exact ⟨Conversion.convertWith_congr fun _ => hfound, hserves⟩
  · next hlooks => exact ⟨Conversion.convertWith_congr fun hl => absurd hl hlooks, h⟩

end ConversionEngine

/-! ## Any calls -/

namespace EngineCall

/-- One call is answered as the converters answer it, and the engine still serves them. -/
theorem run_eq {e : ConversionEngine} {cs : Chain Converter} (h : e.Serves cs) (call : EngineCall) :
    (call.run e).1 = (call.look cs).1 ∧ (call.run e).2.Serves (call.look cs).2 := by
  cases call with
  | register c => exact ⟨rfl, h.register c⟩
  | remove key => exact (h.remove key).imp_left (congrArg _)
  | find t => exact (h.find t).imp_left (congrArg _)
  | canConvert t => exact (h.canConvert t).imp_left (congrArg _)
  | convert value t => exact (h.convert value t).imp_left (congrArg _)

theorem answerAll_eq {e : ConversionEngine} {cs : Chain Converter} (h : e.Serves cs)
    (calls : List EngineCall) :
    (answerAll run e calls).1 = (answerAll look cs calls).1 ∧
      (answerAll run e calls).2.Serves (answerAll look cs calls).2 := by
  induction calls generalizing e cs with
  | nil => exact ⟨rfl, h⟩
  | cons call rest ih =>
    obtain ⟨hanswer, hserves⟩ := run_eq h call
    obtain ⟨hanswers, hrest⟩ := ih hserves
    exact ⟨by rw [answerAll, answerAll, hanswer, hanswers], hrest⟩

/-- **What an engine remembers never shows.** Calls in any order are answered as the converters
answer them that are gone through each time; and after any calls, a look-up finds the first of the
converters there are by then that claims the type, and none if no converter claims it. -/
theorem answerAll_run (converters : Chain Converter) (calls : List EngineCall) :
    (answerAll run (.ofConverters converters) calls).1 = (answerAll look converters calls).1 ∧
    (answerAll run (.ofConverters converters) calls).2.converters =
      (answerAll look converters calls).2 ∧
    ∀ t, ((answerAll run (.ofConverters converters) calls).2.find t).1 =
      (answerAll look converters calls).2.members.find? fun c => c.claims t := by
  obtain ⟨hanswers, hserves⟩ := answerAll_eq (.ofConverters converters) calls
  exact ⟨hanswers, hserves.converters, fun t => (hserves.find t).1⟩

end EngineCall

end LayoutTree
