import LayoutTree.Number.Read

/-!
# Scans of a text

A scanner reads a part of a text and stops somewhere inside of it, or fails. What a failure is about
stands in the text from the place on where the scanner started: an `Occasion` says what that is for
each failure, and `Scans` that a scanner keeps to it. Scanners in a row keep to it if each of them
does (`Scans.bind`), so a failure of a whole reader is about something in the text that it was given.

* `LongRun`: a text with more digits in a row than are converted.
-/

namespace LayoutTree.Text

open LayoutTree.Number

/-- What a text holds where a scanner fails on it. It is held by all that comes before as well. -/
structure Occasion (ε : Type) where
  /-- What the text holds for a failure. -/
  holds : ε → List Char → Prop
  /-- A text holds what its end holds. -/
  of_suffix {e : ε} {s t : List Char} : holds e s → s <:+ t → holds e t

/-- A scanner stops inside the text `s`, where `rest` is the text after what it read, or it fails
because of something in that text. -/
def Scans {ε α : Type} (occasion : Occasion ε) (rest : α → List Char) (s : List Char) :
    Except ε α → Prop
  | .ok a => rest a <:+ s
  | .error e => occasion.holds e s

namespace Scans

variable {ε α β : Type} {occasion : Occasion ε} {rest : α → List Char} {restAfter : β → List Char}
  {s t : List Char} {r : Except ε α}

theorem of_suffix (h : Scans occasion rest s r) (hst : s <:+ t) : Scans occasion rest t r := by
  cases r with
  | ok a => exact List.IsSuffix.trans h hst
  | error e => exact occasion.of_suffix h hst

/-- A scan and what goes on from the place where it stops. -/
theorem bind {f : α → Except ε β} (h : Scans occasion rest s r)
    (hf : ∀ a, Scans occasion restAfter (rest a) (f a)) : Scans occasion restAfter s (r >>= f) := by
  cases r with
  | ok a => exact (hf a).of_suffix h
  | error e => exact h

end Scans

/-- More digits in a row than are converted to an integer. -/
def LongRun (digits : Nat) (s : List Char) : Prop :=
  maxIntegerDigits < digits ∧
    ∃ ds, ds <:+: s ∧ ds.length = digits ∧ ∀ c ∈ ds, isDigitChar c = true

theorem LongRun.of_suffix {digits : Nat} {s t : List Char} (h : LongRun digits s) (hst : s <:+ t) :
    LongRun digits t := by
  obtain ⟨hlong, ds, hds, hrun⟩ := h
  exact ⟨hlong, ds, hds.trans hst.isInfix, hrun⟩

/-- The digits at the start of a text are a run. -/
theorem LongRun.of_takeWhile {p : Char → Bool} {s : List Char}
    (hlong : maxIntegerDigits < (s.takeWhile p).length)
    (hp : ∀ c, p c = true → isDigitChar c = true) : LongRun (s.takeWhile p).length s :=
  ⟨hlong, _, (List.takeWhile_prefix p).isInfix, rfl,
    fun _ hc => hp _ (List.all_eq_true.1 List.all_takeWhile _ hc)⟩

end LayoutTree.Text
