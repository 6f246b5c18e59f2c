import LayoutTree.Node.Class

/-!
# Widgets

The classes of the library: three bare capabilities, and the common controls of user interfaces.
-/

namespace LayoutTree

/-! ## Enumerations -/

namespace Enumeration

def horizontalAlignment : Enumeration :=
  .ofTexts "HorizontalAlignment"
    [("STRETCH", "stretch"), ("LEFT", "left"), ("CENTER", "center"), ("RIGHT", "right")]

def verticalAlignment : Enumeration :=
  .ofTexts "VerticalAlignment"
    [("STRETCH", "stretch"), ("TOP", "top"), ("CENTER", "center"), ("BOTTOM", "bottom")]

def orientation : Enumeration :=
  .ofTexts "Orientation" [("VERTICAL", "vertical"), ("HORIZONTAL", "horizontal")]

def visibility : Enumeration :=
  .ofTexts "Visibility"
    [("VISIBLE", "visible"), ("HIDDEN", "hidden"), ("COLLAPSED", "collapsed")]

/-- The edge that a child of a dock panel is at. -/
def dock : Enumeration :=
  .ofTexts "Dock" [("LEFT", "left"), ("TOP", "top"), ("RIGHT", "right"), ("BOTTOM", "bottom")]

def textWrapping : Enumeration :=
  .ofTexts "TextWrapping"
    [("NO_WRAP", "nowrap"), ("WRAP", "wrap"), ("WRAP_WITH_OVERFLOW", "wrapwithoverflow")]

def stretch : Enumeration :=
  .ofTexts "Stretch"
    [("NONE", "none"), ("FILL", "fill"), ("UNIFORM", "uniform"),
      ("UNIFORM_TO_FILL", "uniformtofill")]

end Enumeration

namespace NodeClass

/-! ## Declarations -/

/-- The declaration of a slot. -/
def declare (slot : String) (type : Target) : Declaration := ⟨slot, type, false⟩

/-- A type with absence allowed. -/
def maybe (t : Target) : Target := t.optional

/-- The slots that all controls have. -/
def controlSlots : List Declaration := [
  declare "name" (maybe .text), declare "width" (maybe .number), declare "height" (maybe .number),
  declare "min_width" (maybe .number), declare "max_width" (maybe .number),
  declare "min_height" (maybe .number), declare "max_height" (maybe .number),
  declare "margin" (.record .thickness), declare "padding" (.record .thickness),
  declare "opacity" .number, declare "visibility" (.enumeration .visibility),
  declare "is_enabled" .truth,
  declare "horizontal_alignment" (.enumeration .horizontalAlignment),
  declare "vertical_alignment" (.enumeration .verticalAlignment),
  declare "background" (maybe (.record (.brush .any))),
  declare "foreground" (maybe (.record (.brush .any))),
  declare "border_brush" (maybe (.record (.brush .any))),
  declare "border_thickness" (.record .thickness), declare "font_family" (maybe .text),
  declare "font_size" (maybe .number), declare "font_weight" (.enumeration .fontWeight),
  declare "tag" .any]

/-- The slot that holds a content. -/
def contentSlots : List Declaration := [declare "content" .any]

/-- The slots of a button. -/
def buttonSlots : List Declaration :=
  [declare "command" .any, declare "is_default" .truth]

/-- The slot that tells whether a button is checked. -/
def checkedSlots : List Declaration := [declare "is_checked" (maybe .truth)]

/-- The slots of a range. -/
def rangeSlots : List Declaration :=
  [declare "minimum" .number, declare "maximum" .number, declare "value" .number]

/-! ## Kinds of classes -/

/-- A class of nodes with a capability. -/
def withCapability (capability : Capability) (name : String) (declarations : List Declaration) :
    NodeClass :=
  { leaf name declarations with capability }

/-- A control without children. -/
def control (name : String) (own : List Declaration) : NodeClass :=
  leaf name (controlSlots ++ own)

/-- A control that holds one content. -/
def contentControl (name : String) (own : List Declaration) : NodeClass :=
  withCapability .content name (controlSlots ++ contentSlots ++ own)

/-- A control that holds children in order. -/
def panel (name : String) (own : List Declaration) : NodeClass :=
  withCapability .panel name (controlSlots ++ own)

/-- A control that holds items. -/
def itemsControl (name : String) (own : List Declaration) : NodeClass :=
  withCapability .items name (controlSlots ++ own)

/-! ## Classes -/

/-- The classes below the widgets. -/
def bases : List NodeClass := [
  leaf "Node" [],
  withCapability .panel "PanelNode" [],
  withCapability .content "ContentNode" contentSlots,
  withCapability .items "ItemsNode" []]

/-- The widgets. -/
def widgets : List NodeClass := [
  control "Control" [],
  contentControl "Window" [declare "title" .text],
  control "TextBlock" [declare "text" .text, declare "text_wrapping" (.enumeration .textWrapping)],
  contentControl "Label" [],
  control "TextBox" [
    declare "text" .text, declare "watermark" (maybe .text), declare "is_read_only" .truth,
    declare "max_length" .integer, declare "accepts_return" .truth],
  contentControl "Button" buttonSlots,
  contentControl "ToggleButton" (buttonSlots ++ checkedSlots),
  contentControl "CheckBox" (buttonSlots ++ checkedSlots),
  contentControl "RadioButton"
    (buttonSlots ++ checkedSlots ++ [declare "group_name" (maybe .text)]),
  itemsControl "ComboBox" [
    declare "selected_index" .integer, declare "placeholder_text" (maybe .text)],
  itemsControl "ListBox" [declare "selected_index" .integer],
  control "RangeControl" rangeSlots,
  control "Slider"
    (rangeSlots ++ [
      declare "orientation" (.enumeration .orientation), declare "tick_frequency" .number]),
  control "ProgressBar"
    (rangeSlots ++ [
      declare "is_indeterminate" .truth, declare "orientation" (.enumeration .orientation)]),
  contentControl "Border" [declare "corner_radius" (.record .cornerRadius)],
  control "Rectangle" [
    declare "fill" (maybe (.record (.brush .any))), declare "stroke" (maybe (.record (.brush .any))),
    declare "stroke_thickness" .number, declare "radius_x" .number, declare "radius_y" .number],
  panel "Panel" [],
  panel "StackPanel" [
    declare "orientation" (.enumeration .orientation), declare "spacing" .number],
  panel "WrapPanel" [declare "orientation" (.enumeration .orientation)],
  panel "Canvas" [],
  panel "DockPanel" [declare "last_child_fill" .truth],
  { panel "Grid" [] with hasTracks := true },
  contentControl "TabItem" [declare "header" .any, declare "is_selected" .truth],
  itemsControl "TabControl" [declare "selected_index" .integer],
  contentControl "ScrollViewer" [
    declare "horizontal_scroll_bar_visibility" (.enumeration .visibility),
    declare "vertical_scroll_bar_visibility" (.enumeration .visibility)],
  contentControl "Viewbox" [declare "stretch" (.enumeration .stretch)],
  control "Image" [declare "source" (maybe .text), declare "stretch" (.enumeration .stretch)],
  control "Separator" [],
  contentControl "Expander" [declare "header" .any, declare "is_expanded" .truth]]

end NodeClass

end LayoutTree
