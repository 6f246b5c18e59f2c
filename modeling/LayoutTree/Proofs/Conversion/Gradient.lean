import LayoutTree.Proofs.Conversion.Calls
import LayoutTree.Proofs.Number.Rounding
import LayoutTree.Proofs.Text.Trim
import LayoutTree.Proofs.Value.Color

/-!
# Gradients with an angle

The last part of a linear gradient may be its angle, and only its text tells an angle from a color.
No color is read as a number, so a gradient of colors alone has no angle, and one with a number
after at least two colors has this angle and the same stops (`convert_gradient`). The stops stand
evenly from zero to one (`Brush.isEven_spread`).
-/

namespace LayoutTree

open LayoutTree.Text LayoutTree.Number

/-! ## Stops -/

namespace Brush

/-- The place of the `i`-th of `n` stops that stand evenly from zero to one. -/
def place (n i : Nat) : ℚ := i / (n - 1 : Nat)

/-- Stops stand evenly from zero to one: each at the double nearest to its place. -/
structure IsEven (stops : List GradientStop) : Prop where
  offset : ∀ (i : Nat) (h : i < stops.length),
    stops[i].offset = Double.ofRatio false i (stops.length - 1)
  /-- The places go up from zero to one. -/
  places : place stops.length 0 = 0 ∧ place stops.length (stops.length - 1) = 1 ∧
    ∀ i j, i < j → place stops.length i < place stops.length j
  /-- An offset is as near to its place as doubles below one are close to each other. -/
  near : ∀ (i : Nat) (h : i < stops.length),
    |stops[i].offset.exact - place stops.length i| ≤ (2 ^ 54)⁻¹
  /-- The first and the last are in their places. -/
  ends : stops.head?.map (·.offset.exact) = some 0 ∧ stops.getLast?.map (·.offset.exact) = some 1
  /-- The offsets go up as well, unless there are more stops than doubles between zero and one. -/
  increasing : stops.length ≤ 2 ^ 53 → stops.Pairwise fun s t => s.offset.exact < t.offset.exact

theorem isEven_spread {colors : List Color} (h : 2 ≤ colors.length) : IsEven (spread colors) := by
  have hlength := length_spread colors
  have hlast : 0 < colors.length - 1 := by omega
  have hoffset : ∀ (i : Nat) (h : i < (spread colors).length),
      (spread colors)[i].offset = Double.ofRatio false i (colors.length - 1) := by
    intro i h
    simp only [spread, List.getElem_mapIdx]
  have hne : spread colors ≠ [] := by
    rw [← List.length_pos_iff, hlength]
    omega
  refine ⟨?_, ⟨?_, ?_, ?_⟩, ?_, ⟨?_, ?_⟩, ?_⟩
  · intro i hi
    rw [hoffset, hlength]
  · rw [place, Nat.cast_zero, zero_div]
  · rw [place, hlength, div_self (Nat.cast_ne_zero.2 hlast.ne')]
  · intro i j hij
    rw [place, place, hlength]
    exact div_lt_div_of_pos_right (Nat.cast_lt.2 hij) (Nat.cast_pos.2 hlast)
  · intro i hi
    rw [hoffset, place, hlength]
    exact Double.abs_exact_ofRatio_sub_le hlast (by omega)
  · rw [List.head?_eq_getElem?, List.getElem?_eq_getElem (by omega), Option.map_some, hoffset,
      Double.exact_ofRatio_zero]
  · rw [List.getLast?_eq_getElem?, List.getElem?_eq_getElem (by omega), Option.map_some, hoffset,
      hlength, Double.exact_ofRatio_self hlast]
  · intro hmany
    rw [List.pairwise_iff_getElem]
    intro i j hi hj hij
    rw [hoffset, hoffset]
    exact Double.exact_ofRatio_lt hij (by omega) (by omega)

end Brush

/-! ## Parts of a gradient -/

namespace Color

theorem ofChars?_trim (s : List Char) : ofChars? (trim s) = ofChars? s := by
  rw [ofChars?, ofChars?, trim_trim]

end Color

namespace Convert

theorem color_trimmed {part : String} {c : Color} (h : Color.ofChars? part.toList = some c) :
    color (trimmed part) = .ok c := by
  rw [color, trimmed, onChars, String.toList_ofList, Color.ofChars?_trim, h]

/-- Parts that describe colors make a gradient of these colors. -/
theorem exists_stops_of_colors {parts : List String} (htwo : 2 ≤ parts.length)
    (h : ∀ part ∈ parts, (Color.ofChars? part.toList).isSome = true) :
    ∃ colors, parts.map (fun part => Color.ofChars? part.toList) = colors.map some ∧
      stops (parts.map trimmed) = .ok (Brush.spread colors) := by
  have hcolors : ∃ colors, parts.map (fun part => Color.ofChars? part.toList) = colors.map some ∧
      (parts.map trimmed).mapM color = .ok colors := by
    clear htwo
    induction parts with
    | nil => exact ⟨[], rfl, rfl⟩
    | cons part parts ih =>
      obtain ⟨c, hc⟩ := Option.isSome_iff_exists.1 (h part List.mem_cons_self)
      obtain ⟨colors, hmap, hread⟩ := ih fun part' hpart => h part' (List.mem_cons_of_mem _ hpart)
      refine ⟨c :: colors, by rw [List.map_cons, List.map_cons, hc, hmap], ?_⟩
      rw [List.map_cons, List.mapM_cons, color_trimmed hc, hread]
      rfl
  obtain ⟨colors, hmap, hread⟩ := hcolors
  refine ⟨colors, hmap, ?_⟩
  rw [stops, if_neg (by rw [List.length_map]; omega), hread]
  rfl

/-- Colors alone have no angle. -/
theorem angleOf_of_colors {parts : List String}
    (h : ∀ part ∈ parts, (Color.ofChars? part.toList).isSome = true) :
    angleOf (parts.map trimmed) = (parts.map trimmed, 0) := by
  rw [angleOf]
  split
  · rfl
  · next hmany =>
    obtain ⟨part, hlast⟩ : ∃ part, parts.getLast? = some part := by
      rw [← Option.isSome_iff_exists, List.getLast?_isSome]
      rintro rfl
      exact hmany (Nat.zero_le _)
    obtain ⟨c, hc⟩ := Option.isSome_iff_exists.1 (h part (List.mem_of_getLast? hlast))
    have hnumber : readDouble (trimmed part) = .error (.notDouble (trimmed part)) := by
      have hcolor : Color.ofChars? (trimmed part).toList = some c := by
        rw [trimmed, onChars, String.toList_ofList, Color.ofChars?_trim, hc]
      rw [readDouble, Color.readDouble?_of_ofChars? hcolor]
    rw [List.getLast?_map, hlast, Option.map_some, Option.getD_some, hnumber]
    rfl

/-- A number after at least two parts is the angle. -/
theorem angleOf_append {parts : List String} (htwo : 2 ≤ parts.length) {a : String} {x : Double}
    (ha : readDouble a = .ok x) : angleOf (parts ++ [a]) = (parts, x) := by
  rw [angleOf, if_neg (by rw [List.length_append, List.length_singleton]; omega),
    List.getLast?_concat, Option.getD_some, ha, List.dropLast_concat]
  rfl

theorem exists_axis? {x : Double} (h : x.isFinite = true) :
    ∃ start finish, Brush.axis? x = some (start, finish) := by
  cases x with
  | nan => cases h
  | infinite negative => cases h
  | finite negative m e => exact ⟨_, _, rfl⟩

/-- The parts of a joined definition, whatever blanks are trimmed off its end. -/
theorem gradientParts_trimEnd {s : List Char} {parts : List String}
    (h : splitAt ',' s = parts.map String.toList) :
    gradientParts (trimEnd s) = parts.map trimmed := by
  have htrim : (splitAt ',' (trimEnd s)).map trim = (splitAt ',' s).map trim :=
    map_trim_splitAt_trimEnd (by decide) s
  have hstrings := congrArg (List.map String.ofList) htrim
  rw [List.map_map, h, List.map_map, List.map_map] at hstrings
  exact hstrings

/-- What stands after the mark of a gradient. -/
theorem trim_mark_append {mark : List Char} (hfirst : mark.head?.map isBlank = some false)
    (hlast : mark.getLast? = some ':') (s : List Char) : trim (mark ++ s) = mark ++ trimEnd s := by
  obtain ⟨before, rfl⟩ := List.getLast?_eq_some_iff.1 hlast
  have hstart : trimStart (before ++ [':'] ++ s) = before ++ [':'] ++ s := by
    cases before with
    | nil => exact trimStart_cons_of_not_blank _ (by decide)
    | cons c before => exact trimStart_cons_of_not_blank _ (Option.some.inj hfirst)
  rw [trim, hstart, List.append_assoc, List.singleton_append, trimEnd_append (by decide),
    List.append_assoc, List.singleton_append]

theorem anyBrush_linear (s : String) :
    anyBrush ("LinearGradient:" ++ s) = linear (trimEnd s.toList) := by
  have hfold : fold "LinearGradient:".toList = linearMark := by decide +kernel
  rw [anyBrush, String.toList_append, trim_mark_append (by decide) (by decide), fold_append, hfold,
    if_pos (by simp)]
  rfl

theorem anyBrush_radial (s : String) :
    anyBrush ("RadialGradient:" ++ s) = radial (trimEnd s.toList) := by
  have hfold : fold "RadialGradient:".toList = radialMark := by decide +kernel
  have hother : linearMark.isPrefixOf (radialMark ++ fold (trimEnd s.toList)) = false := by
    have hlinear : linearMark = 'l' :: "ineargradient:".toList := by decide +kernel
    have hradial : radialMark = 'r' :: "adialgradient:".toList := by decide +kernel
    rw [hlinear, hradial, List.cons_append, List.isPrefixOf_cons_cons]
    rfl
  rw [anyBrush, String.toList_append, trim_mark_append (by decide) (by decide), fold_append, hfold,
    hother, if_neg Bool.false_ne_true, if_pos (by simp)]
  rfl

end Convert

theorem Conversion.convert_brush {value : String} (hvalue : value ≠ "") {b : Brush}
    (h : Convert.anyBrush value = .ok b) :
    convert Converter.standard (some value) (.record (.brush .any)) = .ok (.brush b) := by
  have hfind : find? Converter.standard (.record (.brush .any)) = some Converter.toBrush := rfl
  have hbrush : Convert.brush .any value = .ok b := by
    rw [Convert.brush, h]
    rfl
  rw [convert_eq_apply _ hvalue (u := .record (.brush .any)) rfl nofun nofun, hfind]
  change ((Convert.brush .any value).map Value.brush).mapError _ = _
  rw [hbrush]
  rfl

/-! ## Gradients -/

namespace Convert

variable {colors : List String} {cs : List Color}

theorem exists_linear_of_colors
    (hparts : splitAt ',' (joinWith "," colors).toList = colors.map String.toList)
    (hread : ∀ c ∈ colors, (Color.ofChars? c.toList).isSome = true)
    (hstops : stops (colors.map trimmed) = .ok (Brush.spread cs)) :
    ∃ start finish, anyBrush ("LinearGradient:" ++ joinWith "," colors) =
      .ok ⟨1, .linear (Brush.spread cs) start finish⟩ := by
  obtain ⟨start, finish, haxis⟩ := exists_axis? (x := 0) rfl
  refine ⟨start, finish, ?_⟩
  rw [anyBrush_linear, linear, gradientParts_trimEnd hparts, angleOf_of_colors hread]
  dsimp only
  rw [haxis, hstops]
  rfl

theorem exists_linear_of_angle (htwo : 2 ≤ colors.length)
    (hparts : splitAt ',' (joinWith "," colors).toList = colors.map String.toList)
    (hstops : stops (colors.map trimmed) = .ok (Brush.spread cs)) {a : String} {x : Double}
    (ha : readDouble a = .ok x) (hx : x.isFinite = true) :
    ∃ start finish, anyBrush ("LinearGradient:" ++ (joinWith "," colors ++ "," ++ a)) =
      .ok ⟨1, .linear (Brush.spread cs) start finish⟩ := by
  have hcomma : ',' ∉ a.toList := by
    intro hmem
    have hchar := isNumeralChar_of_mem (readDouble_eq_ok_iff.1 ha) hmem (by decide) (by decide)
    exact absurd hchar (by decide)
  have hpartsAngle : splitAt ',' (joinWith "," colors ++ "," ++ a).toList =
      (colors ++ [a]).map String.toList := by
    have hlist : (joinWith "," colors ++ "," ++ a).toList =
        (joinWith "," colors).toList ++ ',' :: a.toList := by
      rw [String.toList_append, String.toList_append, List.append_assoc]
      rfl
    rw [hlist, splitAt_append, hparts, splitAt_of_notMem hcomma, List.map_append,
      List.map_singleton]
  obtain ⟨start, finish, haxis⟩ := exists_axis? hx
  refine ⟨start, finish, ?_⟩
  rw [anyBrush_linear, linear, gradientParts_trimEnd hpartsAngle, List.map_append,
    List.map_singleton, angleOf_append (by rwa [List.length_map]) (readDouble_trimmed ha)]
  dsimp only
  rw [haxis, hstops]
  rfl

theorem radial_of_colors
    (hparts : splitAt ',' (joinWith "," colors).toList = colors.map String.toList)
    (hstops : stops (colors.map trimmed) = .ok (Brush.spread cs)) :
    anyBrush ("RadialGradient:" ++ joinWith "," colors) =
      .ok ⟨1, .radial (Brush.spread cs) Brush.middle Brush.half⟩ := by
  rw [anyBrush_radial, radial, gradientParts_trimEnd hparts, hstops]
  rfl

end Convert

/-- **An angle does not change the stops of a gradient.** At least two colors, joined with commas,
make a linear gradient, with a finite number after a further comma as well, and a radial gradient.
The three have the same stops, one for each color in order, evenly from zero to one. -/
theorem convert_gradient {e : ConversionEngine} (he : e.Serves Converter.standard)
    {colors : List String} (htwo : 2 ≤ colors.length)
    (hcolors : ∀ c ∈ colors, ',' ∉ c.toList ∧ (Color.ofChars? c.toList).isSome = true)
    {a : String} {x : Double} (ha : readDouble a = .ok x) (hx : x.isFinite = true) :
    ∃ stops start finish start' finish',
      (e.convert (some ("LinearGradient:" ++ joinWith "," colors)) (.record (.brush .any))).1 =
        .ok (.brush ⟨1, .linear stops start finish⟩) ∧
      (e.convert (some ("LinearGradient:" ++ (joinWith "," colors ++ "," ++ a)))
        (.record (.brush .any))).1 = .ok (.brush ⟨1, .linear stops start' finish'⟩) ∧
      (e.convert (some ("RadialGradient:" ++ joinWith "," colors)) (.record (.brush .any))).1 =
        .ok (.brush ⟨1, .radial stops Brush.middle Brush.half⟩) ∧
      stops.map (fun s => some s.color) = colors.map (fun c => Color.ofChars? c.toList) ∧
      Brush.IsEven stops := by
  obtain ⟨hcommas, hread⟩ := forall₂_and.1 hcolors
  have hparts : splitAt ',' (joinWith "," colors).toList = colors.map String.toList :=
    splitAt_joinWith (by rintro rfl; cases htwo) hcommas
  obtain ⟨cs, hcs, hstops⟩ := Convert.exists_stops_of_colors htwo hread
  obtain ⟨start, finish, hlinear⟩ := Convert.exists_linear_of_colors hparts hread hstops
  obtain ⟨start', finish', hangle⟩ :=
    Convert.exists_linear_of_angle htwo hparts hstops ha hx
  have hlength : 2 ≤ cs.length := by
    have := congrArg List.length hcs
    rw [List.length_map, List.length_map] at this
    omega
  have hcolor := congrArg (List.map some) (Brush.color_spread cs)
  rw [List.map_map] at hcolor
  refine ⟨Brush.spread cs, start, finish, start', finish', ?_, ?_, ?_, hcolor.trans hcs.symm,
    Brush.isEven_spread hlength⟩
  · rw [(he.convert _ _).1]
    exact Conversion.convert_brush (by simp) hlinear
  · rw [(he.convert _ _).1]
    exact Conversion.convert_brush (by simp) hangle
  · rw [(he.convert _ _).1]
    exact Conversion.convert_brush (by simp) (Convert.radial_of_colors hparts hstops)

/-- Two colors and an angle, with blanks around them. -/
theorem convert_gradient_padded :
    ConversionEngine.standard.Serves Converter.standard ∧
    readDouble? "\t-90 ".toList = some (.finite true 6333186975989760 (-46)) ∧
    ∃ stops start finish start' finish',
      (ConversionEngine.standard.convert (some "LinearGradient: #F00,light-blue ")
        (.record (.brush .any))).1 = .ok (.brush ⟨1, .linear stops start finish⟩) ∧
      (ConversionEngine.standard.convert (some "LinearGradient: #F00,light-blue ,\t-90 ")
        (.record (.brush .any))).1 = .ok (.brush ⟨1, .linear stops start' finish'⟩) ∧
      (ConversionEngine.standard.convert (some "RadialGradient: #F00,light-blue ")
        (.record (.brush .any))).1 = .ok (.brush ⟨1, .radial stops Brush.middle Brush.half⟩) ∧
      stops.map (fun s => some s.color) = [some ⟨255, 0, 0, 255⟩, some ⟨173, 216, 230, 255⟩] ∧
      Brush.IsEven stops := by
  have hserves := ConversionEngine.Serves.ofConverters Converter.standard
  have hangle : readDouble? "\t-90 ".toList = some (.finite true 6333186975989760 (-46)) := by
    decide +kernel
  have hcolors : [" #F00", "light-blue "].map (fun c => Color.ofChars? c.toList) =
      [some ⟨255, 0, 0, 255⟩, some ⟨173, 216, 230, 255⟩] := by decide +kernel
  have hgradient := @convert_gradient _ hserves [" #F00", "light-blue "] (by decide)
    (by decide +kernel) "\t-90 " _ (readDouble_eq_ok_iff.2 hangle) rfl
  have hjoined : joinWith "," [" #F00", "light-blue "] = " #F00,light-blue " := by decide +kernel
  rw [hjoined, hcolors] at hgradient
  exact ⟨hserves, hangle, hgradient⟩

end LayoutTree
