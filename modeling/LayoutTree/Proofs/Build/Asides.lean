import LayoutTree.Build.Forest

/-!
# What a build does on the side

Messages, waiting and the look-up of a handle leave most of what a build has come to as it is. That
a relation between the progress before and after holds across them has to be shown for single ones
only: then it holds across several messages (`Progress.rel_emitAll`), and across the parts of a build
that do nothing else (`Progress.AllowsLookup`). The look-up of a type changes what is known of types
besides, and may tell of it (`Build.rel_findType`).
-/

namespace LayoutTree

namespace Progress

theorem rel_emitAll {R : Progress → Progress → Prop} (hrefl : ∀ p, R p p)
    (htrans : ∀ {p q p'}, R p q → R q p' → R p p') {d : Descriptor} {property : Option String}
    {severity : Severity} (hemit : ∀ p text, R p (p.emit d property severity text))
    (p : Progress) (texts : List String) : R p (p.emitAll d property severity texts) := by
  induction texts generalizing p with
  | nil => exact hrefl p
  | cons text texts ih => exact htrans (hemit p text) (ih _)

/-- A relation between the progress before and after parts of a build that allows the look-up of a
handle: a warning about a node, the step itself, and the wait for an answer. -/
structure AllowsLookup (R : Progress → Progress → Prop) : Prop where
  refl (p : Progress) : R p p
  trans {p q p' : Progress} : R p q → R q p' → R p p'
  warn (p : Progress) (d : Descriptor) (text : String) : R p (p.emit d none .warning text)
  resolve (p : Progress) (handle : String) : R p (p.take (.resolve handle))
  wait (p : Progress) (mode : Mode) : R p (p.wait mode)

end Progress

namespace Build

variable {R : Progress → Progress → Prop}

theorem rel_findType (hrefl : ∀ p, R p p)
    (hfound : ∀ p log types, R p { p with log := p.log ++ log, types })
    (hinform : ∀ {p q} d text, R p q → R p (q.emit d none .info text))
    (s : Setup) (d : Descriptor) (name : String) (p : Progress) :
    R p (findType s d name p).progress := by
  rw [findType]
  split
  · exact hrefl p
  · split
    · exact hrefl p
    · obtain ⟨log, result⟩ := p.types.autoRegister s.modules name s.settings.autoRegisterModules
      rcases result with fault | ⟨_ | t, types⟩
      · exact hfound p log p.types
      · exact hfound p log types
      · exact hinform d _ (hfound p log types)

theorem rel_resolveHandle (hR : Progress.AllowsLookup R) (s : Setup) (d : Descriptor)
    (handle : String) (p : Progress) : R p (resolveHandle s d handle p).2 := by
  rw [resolveHandle]
  split
  · exact hR.refl p
  · split
    · exact hR.resolve p handle
    · exact hR.trans (hR.resolve p handle) (hR.warn _ d _)
    · dsimp only
      split
      · exact hR.warn p d _
      · have hwait := hR.trans (hR.wait p s.mode) (hR.resolve _ handle)
        split
        · exact hwait
        · exact hR.trans hwait (hR.warn _ d _)

theorem rel_groupContext (hR : Progress.AllowsLookup R) (s : Setup) (d : Descriptor)
    (p : Progress) : R p (groupContext s d p).2 := by
  rw [groupContext]
  split
  · split
    · exact hR.refl p
    · exact rel_resolveHandle hR s d _ p
  · exact hR.refl p

theorem rel_giveContext (hR : Progress.AllowsLookup R) (d : Descriptor) (context : Option Value)
    (n : Node) (p : Progress) : R p (giveContext d context n p).2 := by
  unfold giveContext
  split
  · exact hR.refl p
  · exact hR.refl p
  · exact hR.warn p d _

end Build

end LayoutTree
