import LayoutTree.Text.Quoted
import LayoutTree.Text.Symbol

/-!
# Colors

A color has four channels of eight bits. `Color.ofChars?` reads `#RGB`, `#RRGGBB`, `#RRGGBBAA` and
the names of `namedColors`; `Color.text` writes all channels in hexadecimal.
-/

namespace LayoutTree

open LayoutTree.Text

/-- A color with its opacity. -/
structure Color where
  /-- The red channel. -/
  r : UInt8
  /-- The green channel. -/
  g : UInt8
  /-- The blue channel. -/
  b : UInt8
  /-- The opacity. -/
  a : UInt8
  deriving DecidableEq, Repr

namespace Color

/-- Opaque black. -/
def black : Color := ⟨0, 0, 0, 255⟩

/-- The colors that have a name. -/
def namedColors : List (String × Nat × Nat × Nat) := [
  ("aliceblue", 240, 248, 255), ("aqua", 0, 255, 255), ("azure", 240, 255, 255),
  ("beige", 245, 245, 220), ("black", 0, 0, 0), ("blue", 0, 0, 255), ("brown", 165, 42, 42),
  ("coral", 255, 127, 80), ("crimson", 220, 20, 60), ("cyan", 0, 255, 255),
  ("darkblue", 0, 0, 139), ("darkgray", 169, 169, 169), ("darkgreen", 0, 100, 0),
  ("darkred", 139, 0, 0), ("dimgray", 105, 105, 105), ("fuchsia", 255, 0, 255),
  ("gold", 255, 215, 0), ("gray", 128, 128, 128), ("green", 0, 128, 0), ("grey", 128, 128, 128),
  ("indigo", 75, 0, 130), ("ivory", 255, 255, 240), ("khaki", 240, 230, 140),
  ("lavender", 230, 230, 250), ("lightblue", 173, 216, 230), ("lightgray", 211, 211, 211),
  ("lightgreen", 144, 238, 144), ("lime", 0, 255, 0), ("magenta", 255, 0, 255),
  ("maroon", 128, 0, 0), ("navy", 0, 0, 128), ("olive", 128, 128, 0), ("orange", 255, 165, 0),
  ("orchid", 218, 112, 214), ("pink", 255, 192, 203), ("purple", 128, 0, 128),
  ("red", 255, 0, 0), ("salmon", 250, 128, 114), ("silver", 192, 192, 192),
  ("skyblue", 135, 206, 235), ("steelblue", 70, 130, 180), ("tan", 210, 180, 140),
  ("teal", 0, 128, 128), ("tomato", 255, 99, 71), ("turquoise", 64, 224, 208),
  ("violet", 238, 130, 238), ("white", 255, 255, 255), ("whitesmoke", 245, 245, 245),
  ("yellow", 255, 255, 0)]

/-- The name of the color that is not seen. -/
def transparentName : String := "transparent"

/-! ## Reading -/

/-- The value of a hexadecimal digit. -/
def hexValue? (c : Char) : Option Nat :=
  if '0' ≤ c ∧ c ≤ '9' then some (c.toNat - 48)
  else if 'a' ≤ c ∧ c ≤ 'f' then some (c.toNat - 87)
  else if 'A' ≤ c ∧ c ≤ 'F' then some (c.toNat - 55)
  else none

/-- The channel of two hexadecimal digits. -/
def channel? (high low : Char) : Option UInt8 := do
  let h ← hexValue? high
  let l ← hexValue? low
  pure (UInt8.ofNat (16 * h + l))

/-- The color of hexadecimal digits: one or two for each channel; the opacity only with two. -/
def ofHex? : List Char → Option Color
  | [r, g, b] => do
    pure ⟨← channel? r r, ← channel? g g, ← channel? b b, 255⟩
  | [r, r', g, g', b, b'] => do
    pure ⟨← channel? r r', ← channel? g g', ← channel? b b', 255⟩
  | [r, r', g, g', b, b', a, a'] => do
    pure ⟨← channel? r r', ← channel? g g', ← channel? b b', ← channel? a a'⟩
  | _ => none

/-- The color of a name. -/
def ofName? (name : List Char) : Option Color :=
  let key := String.ofList (symbol name)
  if key = transparentName then some ⟨0, 0, 0, 0⟩
  else
    (namedColors.lookup key).map fun (r, g, b) =>
      ⟨UInt8.ofNat r, UInt8.ofNat g, UInt8.ofNat b, 255⟩

/-- The color that a text describes, apart from blanks around it. -/
def ofChars? (s : List Char) : Option Color :=
  match trim s with
  | '#' :: digits => (ofHex? digits).or (ofName? ('#' :: digits))
  | name => ofName? name

/-! ## Writing -/

/-- A channel as two hexadecimal digits in upper case. -/
def channelChars (n : UInt8) : List Char :=
  (hexPadded 2 n.toNat).map Char.toUpper

/-- The text of a color: all four channels. -/
def text (c : Color) : String :=
  String.ofList ('#' :: [c.r, c.g, c.b, c.a].flatMap channelChars)

end Color

end LayoutTree
