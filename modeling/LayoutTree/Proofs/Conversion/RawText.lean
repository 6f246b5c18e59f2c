import LayoutTree.Layout.Document
import LayoutTree.Proofs.Conversion.Calls
import LayoutTree.Proofs.Json.ReadBack

/-!
# Structured values as raw text

A property of a layout document whose value is no text stands for the JSON text of the value
(`renderScalar`), and a type that no converter serves takes a raw text for the JSON document that it
holds (`Structural.convert`). The two agree: `renderScalar_portable` says that the raw text is read
as the value again, and so a list of integers arrives in a property that holds such a list.
-/

namespace LayoutTree

open LayoutTree.Number

/-- The raw value of what is no text and not absent is its JSON text. -/
theorem renderScalar_eq_render {v : Data} (hnull : v ≠ .null) (htext : ∀ s, v ≠ .text s) :
    renderScalar v = some (Json.render v) := by
  cases v with
  | null => exact absurd rfl hnull
  | text s => exact absurd rfl (htext s)
  | _ => rfl

/-- A list of integers that a text carries. -/
theorem isPortable_integers {xs : List Int} (h : ∀ x ∈ xs, x.natAbs < 10 ^ maxIntegerDigits) :
    (Data.list (xs.map .integer)).IsPortable := by
  rw [Data.IsPortable, Data.arePortable_iff, List.forall_mem_map]
  intro x hx
  rw [Data.IsPortable]
  exact h x hx

namespace Structural

theorem read_integers (xs : List Int) :
    read (.list .integer) (.list (xs.map .integer)) = some (.list (xs.map .integer)) := by
  have hitems : readItems (fun v => read .integer v) (xs.map .integer) =
      some (xs.map .integer) := by
    induction xs with
    | nil => rfl
    | cons x xs ih =>
      have hitem : read .integer (.integer x) = some (.integer x) := by
        rw [read]
        rfl
      rw [List.map_cons, readItems, ih, hitem]
      rfl
  rw [read, hitems]
  rfl

/-- A text that holds the JSON document of a list is not taken for the list as it is. -/
theorem convert_render {v : Data} (hv : v.IsPortable) {item : Target} {a : Value}
    (h : read (.list item) v = some a) :
    convert (Json.render v) (.list item) = .ok a := by
  have hplain : read (.list item) (.text (Json.render v)) = none := by
    rw [read]
    all_goals simp
  rw [convert, hplain, Json.read_render hv]
  simp only [Except.toOption, Option.bind_some, h]

end Structural

/-- Lists of integers are left to their structure, since no converter of the library serves them. -/
theorem Conversion.convert_integers {raw : String} (hraw : raw ≠ "") :
    convert Converter.standard (some raw) (.list .integer) =
      Structural.convert raw (.list .integer) := by
  rw [convert_eq_apply _ hraw (u := .list .integer) rfl nofun nofun]
  rfl

/-- **Structured values survive as raw text.** A value without doubles that is neither a text nor
absent stands for a raw text which is read as the value again, with the fields of its objects in
order. So a list of integers is converted from its raw text by an engine that serves the converters
of the library, whatever it has looked up before. An integer may have up to 4300 digits, as many as
can be written and read. -/
theorem renderScalar_portable :
    (∀ v : Data, v.IsPortable → v ≠ .null → (∀ s, v ≠ .text s) →
      ∃ raw, renderScalar v = some raw ∧ Json.read raw = .ok v) ∧
    ∀ xs : List Int, (∀ x ∈ xs, x.natAbs < 10 ^ maxIntegerDigits) →
      ∀ e : ConversionEngine, e.Serves Converter.standard →
        (e.convert (renderScalar (.list (xs.map .integer))) (.list .integer)).1 =
          .ok (.list (xs.map .integer)) := by
  refine ⟨fun v hv hnull htext => ⟨_, renderScalar_eq_render hnull htext, Json.read_render hv⟩,
    fun xs hxs e he => ?_⟩
  have hv := isPortable_integers hxs
  rw [(he.convert _ _).1, renderScalar, Conversion.convert_integers (Json.render_ne_empty hv),
    Structural.convert_render hv (Structural.read_integers xs)]
  all_goals nofun

/-- Names and texts with quotes, backslashes and control characters, nested, and an empty name. -/
def escapedValue : Data :=
  .object [("a\"b", .list [.integer (-12), .null, .text "x\\\n\x01é"]),
    ("", .object [("k", .bool true), ("a", .list [])])]

/-- Its raw text. -/
def escapedText : String :=
  "\x7b\"a\\\"b\": [-12, null, \"x\\\\\\n\\u0001é\"], " ++
    "\"\": \x7b\"k\": true, \"a\": []\x7d\x7d"

theorem renderScalar_portable_escapedValue :
    escapedValue.IsPortable ∧ renderScalar escapedValue = some escapedText ∧
    Json.read escapedText = .ok escapedValue ∧
    renderScalar (.list [.integer 0, .integer (-12)]) = some "[0, -12]" ∧
    ConversionEngine.standard.Serves Converter.standard ∧
    (ConversionEngine.standard.convert (some "[0, -12]") (.list .integer)).1 =
      .ok (.list [.integer 0, .integer (-12)]) := by
  have hshort : 12 < 10 ^ Number.maxIntegerDigits :=
    Nat.lt_of_lt_of_le (by decide : 12 < 10 ^ 2) (Nat.pow_le_pow_right (by decide) (by decide))
  have hv : escapedValue.IsPortable := by
    simp [escapedValue, Data.IsPortable, Data.ArePortable, Data.ArePortableFields, hshort]
  have htext : renderScalar escapedValue = some escapedText := by rfl
  have hlist : renderScalar (.list [.integer 0, .integer (-12)]) = some "[0, -12]" := by rfl
  have hserves := ConversionEngine.Serves.ofConverters Converter.standard
  obtain ⟨raw, hraw, hread⟩ := renderScalar_portable.1 escapedValue hv nofun nofun
  have hconvert := renderScalar_portable.2 [0, -12] (by simp [hshort, Nat.zero_lt_of_lt hshort])
    .standard hserves
  rw [List.map_cons, List.map_cons, List.map_nil, hlist] at hconvert
  cases hraw.symm.trans htext
  exact ⟨hv, htext, hread, hlist, hserves, hconvert⟩

end LayoutTree
