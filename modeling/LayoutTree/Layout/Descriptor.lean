import LayoutTree.Text.Case

/-!
# Descriptors

What a layout says about one node and the nodes below it: a type name, properties in order, a group
and children. Property names are compared in folded case. `Descriptor.set` overrides a property in
place, `Descriptor.mergeDefaults` puts missing ones in front, `Descriptor.take` removes them by
name.

* `valueOf_cons`: the value under a key is that of its last occurrence.
* `get_set_self`: a property reads back what was set last.
-/

namespace LayoutTree

open LayoutTree.Text

/-- A property as written: a name and its raw value. A name alone has none. -/
structure Property where
  /-- The name as written. -/
  name : String
  /-- The value before any conversion. -/
  value : Option String
  deriving DecidableEq, Repr

namespace Property

/-- The name under which the property is looked up. -/
def key (p : Property) : String :=
  folded p.name

/-- Whether the property is a name alone. -/
def isBare (p : Property) : Bool :=
  p.value.isNone

end Property

/-- The value of a list of properties under a key: that of the last one with this key. -/
def valueOf (key : String) (ps : List Property) : Option String :=
  ((ps.reverse.find? fun p => p.key = key).bind (·.value))

/-- The properties with one set: the first of the same key takes the new name and value, further
ones are dropped, and a new key comes last. `placed` tells whether the new one stands already. -/
def setProperty (entry : Property) (placed : Bool) : List Property → List Property
  | [] => if placed then [] else [entry]
  | p :: ps =>
    if p.key = entry.key then
      if placed then setProperty entry true ps else entry :: setProperty entry true ps
    else p :: setProperty entry placed ps

/-- The properties whose keys are not among those seen, the first of each key. -/
def missingFrom (seen : List String) : List Property → List Property
  | [] => []
  | p :: ps =>
    if seen.contains p.key then missingFrom seen ps else p :: missingFrom (p.key :: seen) ps

/-- What a layout says about a node and the nodes below it. -/
structure Descriptor where
  /-- The name of the type. -/
  typeName : String
  /-- The properties in order. -/
  properties : List Property
  /-- The group whose data context the node shares. -/
  group : Option String
  /-- The nodes below. -/
  children : List Descriptor
  /-- The file that the node comes from. -/
  source : Option String
  deriving Repr, Inhabited

namespace Descriptor

/-- A node with nothing but a type. -/
def ofType (typeName : String) : Descriptor := ⟨typeName, [], none, [], none⟩

/-- The value of a property: that of its last occurrence. -/
def get (d : Descriptor) (name : String) : Option String :=
  valueOf (folded name) d.properties

/-- Whether a property is present. -/
def has (d : Descriptor) (name : String) : Bool :=
  d.properties.any fun p => p.key = folded name

/-- The keys of the properties, each once, in order of first occurrence. -/
def keys (d : Descriptor) : List String :=
  (missingFrom [] d.properties).map Property.key

/-- A property set in place of its first occurrence, or at the end. -/
def set (d : Descriptor) (name : String) (value : Option String) : Descriptor :=
  { d with properties := setProperty ⟨name, value⟩ false d.properties }

/-- The defaults whose names are missing put in front. -/
def mergeDefaults (d : Descriptor) (defaults : List Property) : Descriptor :=
  { d with properties := missingFrom (d.properties.map Property.key) defaults ++ d.properties }

/-- The properties of the given names, and the descriptor without them. -/
def take (d : Descriptor) (names : List String) : List Property × Descriptor :=
  let keys := names.map folded
  (d.properties.filter fun p => keys.contains p.key,
    { d with properties := d.properties.filter fun p => !keys.contains p.key })

/-- A property written after the others. -/
def append (d : Descriptor) (p : Property) : Descriptor :=
  { d with properties := d.properties ++ [p] }

mutual

/-- The source file put down on the node and the nodes below, where none is yet. -/
def stampSource (source : String) : Descriptor → Descriptor
  | ⟨typeName, properties, group, children, own⟩ =>
    ⟨typeName, properties, group, stampSources source children, some (own.getD source)⟩

/-- The source file put down on several nodes. -/
def stampSources (source : String) : List Descriptor → List Descriptor
  | [] => []
  | d :: ds => stampSource source d :: stampSources source ds

end

mutual

/-- The node and the nodes below it, each before its children. -/
def walk : Descriptor → List Descriptor
  | ⟨typeName, properties, group, children, source⟩ =>
    ⟨typeName, properties, group, children, source⟩ :: walkAll children

/-- Several nodes and the nodes below them. -/
def walkAll : List Descriptor → List Descriptor
  | [] => []
  | d :: ds => walk d ++ walkAll ds

end

theorem walk_eq (d : Descriptor) : d.walk = d :: walkAll d.children := by
  cases d
  rw [walk]

theorem walkAll_eq_flatMap (ds : List Descriptor) : walkAll ds = ds.flatMap walk := by
  induction ds with
  | nil => rfl
  | cons d ds ih => rw [walkAll, ih, List.flatMap_cons]

/-- How many nodes a descriptor describes. -/
def count (d : Descriptor) : Nat :=
  d.walk.length

end Descriptor

/-! ## Reading back -/

theorem valueOf_cons (key : String) (p : Property) (ps : List Property) :
    valueOf key (p :: ps) =
      if ps.any (fun q => q.key = key) then valueOf key ps
      else if p.key = key then p.value else none := by
  simp only [valueOf, List.reverse_cons, List.find?_append]
  by_cases h : ps.any (fun q => q.key = key) = true
  · obtain ⟨q, hq, hk⟩ := List.any_eq_true.1 h
    have : (ps.reverse.find? fun p => decide (p.key = key)).isSome := by
      rw [List.find?_isSome]
      exact ⟨q, by simpa using hq, hk⟩
    obtain ⟨r, hr⟩ := Option.isSome_iff_exists.1 this
    simp [h, hr]
  · have : (ps.reverse.find? fun p => decide (p.key = key)) = none := by
      rw [List.find?_eq_none]
      intro q hq
      have := mt List.any_eq_true.2 h
      simp only [not_exists, not_and] at this
      exact this q (by simpa using hq)
    simp only [this, h, Option.none_or]
    by_cases hp : p.key = key <;> simp [hp]

theorem any_setProperty_placed (entry : Property) (ps : List Property) :
    (setProperty entry true ps).any (fun q => q.key = entry.key) = false := by
  induction ps with
  | nil => simp [setProperty]
  | cons p ps ih =>
    by_cases h : p.key = entry.key
    · simpa [setProperty, h] using ih
    · simp only [setProperty, h, if_false, List.any_cons, decide_false, Bool.false_or]
      exact ih

/-- A property reads back what was set last. -/
theorem valueOf_setProperty_self (entry : Property) (ps : List Property) :
    valueOf entry.key (setProperty entry false ps) = entry.value := by
  induction ps with
  | nil => simp [setProperty, valueOf]
  | cons p ps ih =>
    by_cases h : p.key = entry.key
    · simp [setProperty, h, valueOf_cons, any_setProperty_placed]
    · rw [setProperty, if_neg h, valueOf_cons, ih]
      have hany : (setProperty entry false ps).any (fun q => q.key = entry.key) = true := by
        clear ih
        induction ps with
        | nil => simp [setProperty]
        | cons q ps ih =>
          by_cases hq : q.key = entry.key
          · simp [setProperty, hq]
          · simpa [setProperty, hq] using ih
      rw [if_pos hany]

theorem Descriptor.get_set_self (d : Descriptor) (name : String) (value : Option String) :
    (d.set name value).get name = value :=
  valueOf_setProperty_self ⟨name, value⟩ d.properties

end LayoutTree
