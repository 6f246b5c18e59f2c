import LayoutTree.Xml.Element
import Mathlib.Data.List.Pairwise

/-!
# Routes in element trees

An element below another one is reached by a route: the position among the children to take at each
step, outermost first. Routes in the order of lists are in the order of the document, an element
before what it holds.

* `at?_append_singleton`: the children of the element that a route leads to.
* `everywhere_mk`: what holds of all elements of a tree, by recursion.
* `without`: a tree with some of its elements deleted.
* `InOrder`: elements with their routes, listed in the order of the document.
-/

namespace LayoutTree.Xml

namespace Element

/-- The element that a route leads to. -/
def at? : Element → List Nat → Option Element
  | e, [] => some e
  | e, i :: route => e.children[i]?.bind fun c => c.at? route

theorem at?_append_singleton (e : Element) (route : List Nat) (i : Nat) :
    e.at? (route ++ [i]) = (e.at? route).bind fun c => c.children[i]? := by
  induction route generalizing e with
  | nil => simp [at?]
  | cons j route ih =>
    rw [List.cons_append, at?, at?, Option.bind_assoc]
    exact Option.bind_congr fun c _ => ih c

/-- Something holds of an element and of all elements below it. -/
def Everywhere (P : Element → Prop) (root : Element) : Prop :=
  ∀ route e, root.at? route = some e → P e

theorem everywhere_mk {P : Element → Prop} {name : Name} {attributes : List Attribute}
    {text : String} {children : List Element} :
    (mk name attributes text children).Everywhere P ↔
      P (mk name attributes text children) ∧ ∀ c ∈ children, c.Everywhere P := by
  constructor
  · refine fun h => ⟨h [] _ rfl, fun c hc route e he => ?_⟩
    obtain ⟨i, hi⟩ := List.getElem?_of_mem hc
    refine h (i :: route) e ?_
    rw [at?, Element.children, hi, Option.bind_some, he]
  · rintro ⟨hself, hchildren⟩ route e he
    cases route with
    | nil => exact Option.some.inj he ▸ hself
    | cons i route =>
      obtain ⟨c, hc, he⟩ := Option.bind_eq_some_iff.1 he
      exact hchildren c (List.mem_of_getElem? hc) route e he

mutual

/-- An element without those below it that some routes lead to. -/
def without (gone : List Nat → Bool) : Element → Element
  | mk name attributes text children => mk name attributes text (withoutFrom gone 0 children)

/-- Siblings, counted from `position`, without those of them and below them that some routes lead
to. -/
def withoutFrom (gone : List Nat → Bool) (position : Nat) : List Element → List Element
  | [] => []
  | e :: rest =>
    if gone [position] then withoutFrom gone (position + 1) rest
    else without (fun route => gone (position :: route)) e :: withoutFrom gone (position + 1) rest

end

@[simp] theorem name_without (gone : List Nat → Bool) (e : Element) :
    (e.without gone).name = e.name := by
  cases e
  rfl

@[simp] theorem attributes_without (gone : List Nat → Bool) (e : Element) :
    (e.without gone).attributes = e.attributes := by
  cases e
  rfl

@[simp] theorem text_without (gone : List Nat → Bool) (e : Element) :
    (e.without gone).text = e.text := by
  cases e
  rfl

theorem children_without (gone : List Nat → Bool) (e : Element) :
    (e.without gone).children = withoutFrom gone 0 e.children := by
  cases e
  rfl

end Element

/-- Elements with their routes, in the order of the document: those of which something holds, and no
others. -/
structure InOrder (P : List Nat → Element → Prop) (es : List (List Nat × Element)) : Prop where
  sorted : es.Pairwise fun x y => x.1 < y.1
  mem_iff : ∀ route e, (route, e) ∈ es ↔ P route e

end LayoutTree.Xml
