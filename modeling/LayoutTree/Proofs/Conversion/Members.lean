import LayoutTree.Proofs.Conversion.Calls
import LayoutTree.Property.Validator
import Mathlib.Data.List.Nodup

/-!
# Members of enumerations

A text can name a member by its name, by the text behind it, or by the number behind it, and a
member can have the name of what stands behind another one. Names come first: where they differ in
more than blanks, dashes, underscores and case, each spelling of the name of a member stands for
this member (`member?_of_symbol`). The further names of font weights come before all of these, but
the one that is also the name of a member stands for this member.

The check of enumeration properties asks the converters without an engine, and refuses a text
exactly if an engine has no member for it. Both are said by `convert_spelling`.
-/

namespace LayoutTree

open LayoutTree.Text

/-- The names of the members differ in more than blanks, dashes, underscores and case, and none
consists of these alone. -/
structure Enumeration.HasDistinctNames (en : Enumeration) : Prop where
  nodup : (en.members.map fun m => symbol m.1.toList).Nodup
  nonempty : ∀ m ∈ en.members, symbol m.1.toList ≠ []

namespace Convert

/-- The member of an enumeration that a text stands for; font weights have further names. -/
def memberOf (en : Enumeration) (value : String) : Except Refusal Value :=
  if en = .fontWeight then fontWeight value else member en value

variable {en : Enumeration} {m : String × MemberValue} {s : String}

/-- A spelling of a name is asked for by name before anything else. -/
theorem member?_of_symbol (h : en.HasDistinctNames) (hm : m ∈ en.members)
    (hs : symbol s.toList = symbol m.1.toList) : member? en s = some m.1 := by
  have hname : (en.members.find? fun other => symbol other.1.toList = symbol s.toList) =
      some m := by
    cases hfind : en.members.find? fun other => symbol other.1.toList = symbol s.toList with
    | none => exact absurd hs.symm (by simpa using List.find?_eq_none.1 hfind m hm)
    | some other =>
      have hsame : symbol other.1.toList = symbol m.1.toList := by
        simpa [hs] using List.find?_some hfind
      exact congrArg some
        (List.inj_on_of_nodup_map h.nodup (List.mem_of_find?_eq_some hfind) hm hsame)
  rw [member?, hname, Option.some_or]

/-- A further name of a font weight that a member has as well stands for this member. -/
theorem weightAliases_of_symbol (hm : m ∈ Enumeration.fontWeight.members)
    (hs : symbol s.toList = symbol m.1.toList) :
    ∀ other, weightAliases.lookup (String.ofList (symbol s.toList)) = some other → other = m.1 := by
  have hmembers : ∀ m ∈ Enumeration.fontWeight.members,
      ∀ other ∈ weightAliases.lookup (String.ofList (symbol m.1.toList)), other = m.1 := by
    decide +kernel
  intro other hother
  exact hmembers m hm other (hs ▸ hother)

theorem memberOf_of_symbol (h : en.HasDistinctNames) (hm : m ∈ en.members)
    (hs : symbol s.toList = symbol m.1.toList) : memberOf en s = .ok (.member en.name m.1) := by
  have hmember : member en s = .ok (.member en.name m.1) := by
    rw [member, member?_of_symbol h hm hs]
  rw [memberOf]
  split
  · next hweight =>
    subst hweight
    rw [fontWeight]
    cases hlookup : weightAliases.lookup (String.ofList (symbol s.toList)) with
    | none => exact hmember
    | some other => rw [weightAliases_of_symbol hm hs other hlookup]
  · exact hmember

end Convert

/-! ## Engines and the check -/

/-- Enumerations are served by the two converters to members. -/
theorem Conversion.convert_enumeration {value : String} (hvalue : value ≠ "") {t : Target}
    {en : Enumeration} (ht : t.unwrapped = .enumeration en) :
    convert Converter.standard (some value) t =
      (Convert.memberOf en value).mapError (faultOf value (.enumeration en)) := by
  have hfind : find? Converter.standard (.enumeration en) =
      some (if en = .fontWeight then Converter.toFontWeight else Converter.toMember) := by
    by_cases hweight : en = .fontWeight
    · subst hweight
      rfl
    · have hclaims : Converter.toFontWeight.claims (.enumeration en) = false := by
        simpa [Converter.toFontWeight, Converter.builtIn] using hweight
      rw [if_neg hweight]
      change ([Converter.toFontWeight, Converter.toGridLength, Converter.toCornerRadius,
        Converter.toThickness, Converter.toMember, Converter.toPrimitive].find?
          fun c => c.claims (.enumeration en)) = _
      rw [List.find?_cons, hclaims]
      rfl
  rw [convert_eq_apply _ hvalue ht nofun nofun, hfind, Convert.memberOf]
  split <;> rfl

namespace Validator

theorem isMember_eq (en : Enumeration) (value : String) :
    isMember en value = (Convert.memberOf en value).toOption.isSome := rfl

/-- The check finds an error about a text exactly if it stands for no member. -/
theorem run_membership {n : Node} {name : String} {a : Accessor} {en : Enumeration}
    (ha : n.cls.accessor? name = some a) (hen : a.target = .enumeration en) {value : String}
    (hvalue : value ≠ "") (scope : ValidationScope) :
    ∃ found, membership.run scope n name value = .ok found ∧
      (found.errors ≠ [] ↔ ∃ refusal, Convert.memberOf en value = .error refusal) := by
  have henum : enumeration? n.cls name = some en := by
    rw [enumeration?, ha, Option.map_some, hen]
  have happlies : membership.applies n.cls name = .ok true := by
    change Except.ok (enumeration? n.cls name).isSome = _
    rw [henum, Option.isSome_some]
  rw [run, happlies]
  refine ⟨_, rfl, ?_⟩
  dsimp only
  rw [henum]
  dsimp only
  rw [isMember_eq, String.isEmpty_eq_false_iff.2 hvalue, Bool.false_or]
  cases Convert.memberOf en value with
  | ok v => exact iff_of_false (fun h => h rfl) (fun ⟨_, h⟩ => by cases h)
  | error refusal => exact iff_of_true (List.cons_ne_nil _ _) ⟨refusal, rfl⟩

end Validator

/-- **Names of members are robust, and the check agrees with the conversion.** An engine that serves
the converters of the library takes each spelling of the name of a member for this member, whatever
texts and numbers stand behind the others; and the check of an enumeration property finds an error
about a text that is not empty exactly if its conversion to the type of the property fails. -/
theorem convert_spelling {e : ConversionEngine} (he : e.Serves Converter.standard) :
    (∀ (en : Enumeration) (t : Target), en.HasDistinctNames → t.unwrapped = .enumeration en →
      ∀ m ∈ en.members, ∀ s : String, symbol s.toList = symbol m.1.toList →
        (e.convert (some s) t).1 = .ok (.member en.name m.1)) ∧
    ∀ (scope : ValidationScope) (n : Node) (name : String) (a : Accessor) (en : Enumeration)
      (value : String), n.cls.accessor? name = some a → a.type.unwrapped = .enumeration en →
      value ≠ "" →
      ∃ found, Validator.membership.run scope n name value = .ok found ∧
        (found.errors ≠ [] ↔ ∃ f, (e.convert (some value) a.type).1 = .error (.failure f)) := by
  constructor
  · intro en t hnames ht m hm s hs
    have hne : s ≠ "" := by
      rintro rfl
      exact hnames.nonempty m hm hs.symm
    rw [(he.convert _ _).1, Conversion.convert_enumeration hne ht,
      Convert.memberOf_of_symbol hnames hm hs]
    rfl
  · intro scope n name a en value ha hen hvalue
    obtain ⟨found, hrun, herrors⟩ := Validator.run_membership ha hen hvalue scope
    refine ⟨found, hrun, herrors.trans ?_⟩
    rw [(he.convert _ _).1, Conversion.convert_enumeration hvalue hen]
    cases Convert.memberOf en value with
    | ok v => exact iff_of_false (fun ⟨_, h⟩ => by cases h) (fun ⟨_, h⟩ => by cases h)
    | error refusal =>
      refine iff_of_true ⟨refusal, rfl⟩ ?_
      cases refusal with
      | cause c => exact ⟨_, rfl⟩
      | own message => exact ⟨_, rfl⟩

/-- Members whose names stand behind other members. -/
def crossedLevels : Enumeration :=
  ⟨"Level", [("LOW", .text "high"), ("HIGH", .integer 10), ("10", .text "low")]⟩

/-- A node with an optional property of these. -/
def levelNode : Node :=
  .ofClass 0 (.leaf "Gauge" [⟨"level", Target.optional (.enumeration crossedLevels), false⟩])

theorem convert_spelling_crossedLevels :
    ConversionEngine.standard.Serves Converter.standard ∧ crossedLevels.HasDistinctNames ∧
    (ConversionEngine.standard.convert (some "lo-w") (.enumeration crossedLevels)).1 =
      .ok (.member "Level" "LOW") ∧
    (ConversionEngine.standard.convert (some " 1_0") (.enumeration crossedLevels)).1 =
      .ok (.member "Level" "10") ∧
    Enumeration.fontWeight.HasDistinctNames ∧
    (ConversionEngine.standard.convert (some "Semi Light") (.enumeration .fontWeight)).1 =
      .ok (.member "FontWeight" "SEMI_LIGHT") ∧
    ∃ found, Validator.membership.run ⟨⟨[], []⟩, none⟩ levelNode "Level" "11" = .ok found ∧
      found.errors ≠ [] ∧ ∃ f, (ConversionEngine.standard.convert (some "11")
        (Target.optional (.enumeration crossedLevels))).1 = .error (.failure f) := by
  have hserves := ConversionEngine.Serves.ofConverters Converter.standard
  obtain ⟨hspelling, hcheck⟩ := convert_spelling hserves
  have hlevels : crossedLevels.HasDistinctNames := ⟨by decide +kernel, by decide +kernel⟩
  have hweights : Enumeration.fontWeight.HasDistinctNames := ⟨by decide +kernel, by decide +kernel⟩
  have hlow := hspelling crossedLevels (.enumeration crossedLevels) hlevels rfl
    ("LOW", .text "high") (by decide) "lo-w" (by decide +kernel)
  have hten := hspelling crossedLevels (.enumeration crossedLevels) hlevels rfl
    ("10", .text "low") (by decide) " 1_0" (by decide +kernel)
  have hsemi := hspelling .fontWeight (.enumeration .fontWeight) hweights rfl
    ("SEMI_LIGHT", .integer 350) (by decide) "Semi Light" (by decide +kernel)
  obtain ⟨found, hrun, herrors⟩ := hcheck ⟨⟨[], []⟩, none⟩ levelNode "Level"
    ⟨"Level", "level", Target.optional (.enumeration crossedLevels)⟩ crossedLevels "11"
    (by decide +kernel) (by decide +kernel) (by decide)
  have hfound : found.errors ≠ [] := by
    have hgiven : Validator.membership.run ⟨⟨[], []⟩, none⟩ levelNode "Level" "11" =
        .ok ⟨["Level: '11' is not one of Low, High, 10"], []⟩ := by rfl
    rw [hgiven] at hrun
    rw [← Except.ok.inj hrun]
    exact List.cons_ne_nil _ _
  exact ⟨hserves, hlevels, hlow, hten, hweights, hsemi, found, hrun, hfound, herrors.1 hfound⟩

end LayoutTree
