import LayoutTree.Proofs.Build.Turns
import Mathlib.Algebra.Order.BigOperators.Group.List
import Mathlib.Algebra.Order.Group.Nat

/-!
# The balance of a report

The node results and the errors of a report are two accounts of the same build. The entries of a
node that is made are each counted once in its result (`fulfils_applyProperties`), and the errors
that are reported at a visit are those that the results and the turns of the visit stand for
(`balances_start`). Visits follow one another, so this adds up over a build that comes to its end
(`Course.balances`).

The main statement is `report_balanced`.
-/

namespace LayoutTree

/-- How many entries a node result counts. -/
def NodeResult.entries (r : NodeResult) : Nat := r.applied + r.skipped + r.blocked + r.failed

/-- How many errors a node result stands for, besides those of validation. -/
def NodeResult.faults (r : NodeResult) : Nat := r.state.problems + r.failed

namespace Build

/-- The errors of validation at some turns. -/
def objections (s : Setup) (ts : List Turn) : Nat :=
  (ts.map fun t => (t.findings s).errors.length).sum

/-- How many of some entries are blocked. -/
def blockedAmong (s : Setup) (ts : List Turn) : Nat := ts.countP fun t => !(t.findings s).isValid

/-- Whether a node that is finished is dropped by a parent that holds a single content. -/
def Frame.refuses (f : Frame) (x? : Option Finished) : Bool :=
  x?.any fun x => x.place.isNone && decide (f.node.cls.capability = .content)

/-- A parent has content already, and no wrapper can be made for it. -/
structure Frame.LacksWrapper (s : Setup) (d : Descriptor) (f : Frame) : Prop where
  children : f.node.children ≠ []
  wrapped : f.wrapped = false
  missing : ∃ p, (createWrapper s d (wrapperTypes s) p).value = none

namespace Visit

/-- Whether the node of the visit is made. -/
def isMade (s : Setup) (v : Visit) : Bool :=
  (createNode s v.descriptor v.progress).value.isSome

/-- What is recorded at the visit. -/
def results (s : Setup) (v : Visit) : List NodeResult :=
  (v.start s).progress.report.nodes.drop v.progress.report.nodes.length

/-- Whether the node is dropped because no wrapper can be made for its parent (`Balances.wrapper`). -/
def lacksWrapper (s : Setup) (v : Visit) : Bool := v.parent.refuses (v.start s).value

end Visit

variable {s : Setup} {d : Descriptor} {p q : Progress} {w : Work}

/-! ## The entries of a node -/

theorem entries_count (w : Work) (tally : Tally) :
    (w.count tally).result.entries = w.result.entries + 1 := by
  cases tally <;> simp only [Work.count, NodeResult.entries] <;> omega

theorem failed_count (w : Work) (tally : Tally) :
    (w.count tally).result.failed = w.result.failed + tally.failures := by
  cases tally <;> rfl

theorem blockedAmong_cons (s : Setup) (t : Turn) (ts : List Turn) : blockedAmong s (t :: ts) =
    (if (t.findings s).isValid = false then 1 else 0) + blockedAmong s ts := by
  rw [blockedAmong, List.countP_cons, Nat.add_comm]
  simp only [Bool.not_eq_true']
  rfl

theorem objections_cons (s : Setup) (t : Turn) (ts : List Turn) : objections s (t :: ts) =
    (t.findings s).errors.length + objections s ts :=
  List.sum_cons

/-- All entries of a node are gone through: each is counted, and the errors that are reported are
those of the entries that fail and those of validation. -/
structure Fulfils (s : Setup) (w : Work) (p : Progress) (filled : Stage Work) (entries : Nat)
    (ts : List Turn) (failures : Nat) : Prop where
  entries : filled.value.result.entries = w.result.entries + entries
  blocked : filled.value.result.blocked = w.result.blocked + blockedAmong s ts
  failed : filled.value.result.failed = w.result.failed + failures
  reports : Reports p filled.progress [] (failures + objections s ts)

theorem fulfils_applyProperties (s : Setup) (d : Descriptor) (entries : List Property) (w : Work)
    (p : Progress) (hend : (applyProperties s d entries w p).halt = none) :
    ∃ failures, Fulfils s w p (applyProperties s d entries w p) entries.length
      (turns s d entries w p) failures := by
  induction entries generalizing w p with
  | nil => exact ⟨0, rfl, rfl, rfl, Unharmed.refl p⟩
  | cons entry rest ih =>
    let t : Turn := ⟨d, entry, w, p⟩
    have hfirst : applyProperty s d entry w p = t.outcome s := rfl
    rw [applyProperties, hfirst] at hend ⊢
    rw [turns, hfirst]
    cases hp : p.cancelled with
    | true =>
      have hhalted : t.outcome s = .halted w p (.bare .cancelled) := if_pos hp
      rw [hhalted] at hend
      cases hend
    | false =>
      obtain ⟨tally, hresult, hblocked, hreports⟩ := exists_counts (s := s) (t := t) hp
      rw [if_neg Bool.false_ne_true]
      generalize t.outcome s = entered at hend hresult hreports ⊢
      obtain ⟨w', q, _ | h⟩ := entered
      · obtain ⟨failures, hrest⟩ := ih w' q hend
        have hresult : w'.result = (w.count tally).result := hresult
        refine ⟨tally.failures + failures, ?_, ?_, ?_, ?_⟩
        · have hentries := hrest.entries
          rw [hresult, entries_count] at hentries
          rw [List.length_cons]
          exact hentries.trans (by omega)
        · have hsum := hrest.blocked
          rw [hresult, blocked_count, Nat.add_assoc] at hsum
          change _ = _ + blockedAmong s (t :: turns s d rest w' q)
          rw [blockedAmong_cons, ← if_congr hblocked rfl rfl]
          exact hsum
        · have hfailed := hrest.failed
          rw [hresult, failed_count, Nat.add_assoc] at hfailed
          exact hfailed
        · have hboth := hreports.trans hrest.reports
          rw [Nat.add_add_add_comm, ← objections_cons] at hboth
          exact hboth
      · cases hend

/-! ## Making a node -/

theorem unharmed_findType (s : Setup) (d : Descriptor) (name : String) (p : Progress) :
    Unharmed p (findType s d name p).progress :=
  rel_findType Unharmed.refl (fun _ _ _ => .of_eq rfl rfl) (fun _ _ h => h.trans (.inform _ _ _ _))
    s d name p

theorem reports_skipBelow (d : Descriptor) (reason : String) (p : Progress) :
    Reports p (skipBelow d reason p) (skippedBelow d) 0 :=
  rel_skipBelow (R := fun p q results => Reports p q results 0) Unharmed.refl
    (fun h => (Reports.addNode _ _).trans h) (fun _ _ h => h.unharmed (.warn _ _ _ _)) d reason p

/-- What is recorded about a node that is not made: itself and the nodes below. -/
def unmadeResults (d : Descriptor) : Option Node → List NodeResult
  | none => failedResult d :: skippedBelow d
  | some _ => []

/-- The error about a node that is not made. -/
def unmadeErrors : Option Node → Nat
  | none => 1
  | some _ => 0

/-- A node is made without errors, or it is not made, with one error. -/
def MakesNode (d : Descriptor) (p : Progress) (made : Stage (Option Node)) : Prop :=
  made.halt = none →
    Reports p made.progress (unmadeResults d made.value) (unmadeErrors made.value)

theorem makesNode_failNode (s : Setup) (d : Descriptor) (fault : BuildFault) (reason : String)
    (hp : Unharmed p q) : MakesNode d p (failNode s d fault reason q) := by
  have hfailed : Reports p (noteFailed d fault q) [failedResult d] 1 :=
    hp.after ((Reports.addNode q _).trans (.emitError _ d none _))
  have heq : failNode s d fault reason q = if s.settings.stopOnError then
      .halted none (noteFailed d fault q) (.ofDescriptor fault d none)
      else .done none (skipBelow d reason (noteFailed d fault q)) :=
    failNode_stopping s d fault reason q s.settings.stopOnError
  rw [heq]
  split
  · exact fun h => by cases h
  · exact fun _ => hfailed.trans (reports_skipBelow d reason _)

theorem makesNode (s : Setup) (d : Descriptor) (p : Progress) :
    MakesNode d p (createNode s d p) := by
  have hfind := unharmed_findType s d d.typeName p
  rw [createNode]
  generalize findType s d d.typeName p = found at hfind ⊢
  obtain ⟨_ | t, q, _ | h⟩ := found
  · exact makesNode_failNode s d _ _ hfind
  · exact fun h => by cases h
  · dsimp only
    split
    · exact fun _ => hfind.trans (.of_eq rfl rfl)
    · exact makesNode_failNode s d _ _ hfind
  · exact fun h => by cases h

/-! ## Finding a place -/

theorem unharmed_createWrapper (s : Setup) (d : Descriptor) (names : List String) (p : Progress) :
    Unharmed p (createWrapper s d names p).progress := by
  induction names generalizing p with
  | nil => exact .refl p
  | cons name rest ih =>
    have hfind := unharmed_findType s d name p
    rw [createWrapper]
    split
    · exact hfind
    · exact hfind.trans (ih _)
    · dsimp only
      split
      · split
        · exact hfind.trans (.of_eq rfl rfl)
        · exact hfind.trans (ih _)
      · exact hfind.trans (ih _)

/-- What finding a place for a node comes to, by the errors that are reported: there is one if no
wrapper can be made for a second child. -/
inductive Seats (s : Setup) (d : Descriptor) (f : Frame) (p : Progress) :
    Stage (Frame × Option Place) → Prop
  | ended {x : Frame × Option Place} {q : Progress} {h : Halt} : Seats s d f p (.halted x q h)
  | placed {q : Progress} {f' : Frame} {place : Place} (unharmed : Unharmed p q) :
      Seats s d f p (.done (f', some place) q)
  | refused {q : Progress} (leaf : f.node.cls.capability ≠ .content) (unharmed : Unharmed p q) :
      Seats s d f p (.done (f, none) q)
  | unwrapped {q : Progress} (content : f.node.cls.capability = .content)
      (wrapper : f.LacksWrapper s d) (error : Reports p q [] 1) : Seats s d f p (.done (f, none) q)

theorem seats_wrapContent (s : Setup) (d : Descriptor) {f : Frame} {content : Node}
    (hcontent : f.node.cls.capability = .content) (hchildren : f.node.children ≠ [])
    (hwrapped : f.wrapped = false) (p : Progress) :
    Seats s d f p (wrapContent s d f content p) := by
  have hmade := unharmed_createWrapper s d (wrapperTypes s) p
  have hmissing : (createWrapper s d (wrapperTypes s) p).value = none → ∀ {q}, Reports p q [] 1 →
      Seats s d f p (.done (f, none) q) := fun hnone _ herror =>
    .unwrapped hcontent ⟨hchildren, hwrapped, p, hnone⟩ herror
  rw [wrapContent]
  generalize createWrapper s d (wrapperTypes s) p = made at hmade hmissing ⊢
  obtain ⟨_ | w, q, _ | h⟩ := made
  · exact hmissing rfl (hmade.after (.emitError _ _ _ _))
  · exact .ended
  · exact .placed ((hmade.trans (.take _ _)).trans (.warn _ _ _ _))
  · exact .ended

theorem seats_attach (s : Setup) (d : Descriptor) (f : Frame) (p : Progress) :
    Seats s d f p (attach s d f p) := by
  rw [attach]
  split
  · next hcontent =>
    rw [attachContent]
    split
    · dsimp only
      split
      · exact .placed (.warn _ _ _ _)
      · exact .placed (.refl p)
    · next hchildren =>
      split
      · exact .placed (.refl p)
      · next hunwrapped =>
        have hsecond : f.node.children ≠ [] := by rw [hchildren]; exact List.cons_ne_nil _ _
        exact seats_wrapContent s d hcontent hsecond (eq_false_of_ne_true hunwrapped) p
  · next hleaf => exact .refused (fun h => by cases hleaf.symm.trans h) (.warn _ _ _ _)
  · exact .placed (.refl p)

/-! ## One node -/

/-- What is recorded about a node whose entries are gone through: its own result comes first, and
the nodes below follow if they are not built. -/
structure Settled (s : Setup) (d : Descriptor) (f : Frame) (r : NodeResult) (p : Progress)
    (st : Stage (Option Finished)) (own : NodeResult) (below : List NodeResult) : Prop where
  subject : own.subject = r.subject
  entries : own.entries = r.entries
  blocked : own.blocked = r.blocked
  faults : own.faults = r.faults
  skipped : below = [] ∨ below = skippedBelow d
  wrapper : f.refuses st.value = true → f.LacksWrapper s d
  reports : Reports p st.progress (own :: below) (if f.refuses st.value then 1 else 0)

theorem settled_drop (s : Setup) {d : Descriptor} {f : Frame} {n : Node}
    (hstate : w.result.state = .success) {errors : Nat} (hp : Reports p q [] errors)
    (herrors : errors = if f.refuses (some ⟨f, n, none, false⟩) then 1 else 0)
    (hwrapper : f.refuses (some ⟨f, n, none, false⟩) = true → f.LacksWrapper s d) :
    Settled s d f w.result p (.done (some ⟨f, n, none, false⟩)
        ((skipBelow d "parent node was dropped"
          ((q.addNode { w.result with state := .skipped }).take (.drop n.id))).wait s.mode))
      { w.result with state := .skipped } (skippedBelow d) where
  subject := rfl
  entries := rfl
  blocked := rfl
  faults := by rw [NodeResult.faults, NodeResult.faults, hstate]; rfl
  skipped := .inr rfl
  wrapper := hwrapper
  reports := by
    rw [herrors] at hp
    have hdrop := (hp.trans (.addNode q { w.result with state := .skipped })).unharmed
      (.take _ (.drop n.id))
    exact (hdrop.trans (reports_skipBelow d _ _)).unharmed (.wait _ _)

theorem settled_afterProperties (s : Setup) (d : Descriptor) (f : Frame) (group : Option Value)
    {filled : Stage Work} (hstate : filled.value.result.state = .success)
    (hend : (afterProperties s d f group filled).halt = none) : filled.halt = none ∧
      ∃ own below, Settled s d f filled.value.result filled.progress
        (afterProperties s d f group filled) own below := by
  obtain ⟨w, p, _ | h⟩ := filled
  · refine ⟨rfl, ?_⟩
    have hcontext := rel_giveContext Unharmed.allowsLookup d (w.context.or group) w.node p
    dsimp only [afterProperties, finish] at hend ⊢
    generalize giveContext d (w.context.or group) w.node p = given at hcontext hend ⊢
    obtain ⟨n, q⟩ := given
    have hseats := seats_attach s d f q
    dsimp only at hend ⊢
    generalize attach s d f q = attached at hseats hend ⊢
    cases hseats with
    | ended => cases hend
    | refused leaf unharmed =>
      have hnone : 0 = if f.refuses (some ⟨f, n, none, false⟩) then 1 else 0 := by
        simp [Frame.refuses, leaf]
      exact ⟨_, _, settled_drop s hstate (hcontext.trans unharmed) hnone (by simp [Frame.refuses, leaf])⟩
    | unwrapped content wrapper error =>
      have hone : 1 = if f.refuses (some ⟨f, n, none, false⟩) then 1 else 0 := by
        simp [Frame.refuses, content]
      exact ⟨_, _, settled_drop s hstate (hcontext.after error) hone fun _ => wrapper⟩
    | @placed q' f' place unharmed =>
      have hplaced := ((hcontext.trans unharmed).after (.addNode q' w.result)).unharmed
        (.take _ (.attach f'.node.id n.id))
      dsimp only [Stage.done]
      cases !d.children.isEmpty && !n.cls.holdsChildren with
      | true =>
        exact ⟨w.result, skippedBelow d, rfl, rfl, rfl, rfl, .inr rfl, nofun,
          (hplaced.trans (reports_skipBelow d _ _)).unharmed (.wait _ _)⟩
      | false => exact ⟨w.result, [], rfl, rfl, rfl, rfl, .inl rfl, nofun, hplaced.unharmed (.wait _ _)⟩
  · cases hend

/-- **The balance of a visit**: the errors that are reported are those that its own result and its
turns stand for, and one more if no wrapper can be made for the node. -/
structure Balances (s : Setup) (v : Visit) (own : NodeResult) (below : List NodeResult) : Prop where
  subject : own.subject = v.descriptor.subject
  entries : own.entries = if v.isMade s then v.descriptor.properties.length else 0
  blocked : own.blocked = blockedAmong s (v.turns s)
  skipped : below = [] ∨ below = skippedBelow v.descriptor
  wrapper : v.lacksWrapper s = true → v.parent.LacksWrapper s v.descriptor
  reports : Reports v.progress (v.start s).progress (own :: below)
    (own.faults + objections s (v.turns s) + if v.lacksWrapper s then 1 else 0)

theorem balances_start (s : Setup) (v : Visit) (hend : (v.start s).halt = none) :
    ∃ own below, Balances s v own below := by
  cases hp : v.progress.cancelled with
  | true =>
    have hhalted : v.start s = .halted none v.progress (.bare .cancelled) := if_pos hp
    rw [hhalted] at hend
    cases hend
  | false =>
    have hstart : v.start s = afterCreation s v.descriptor v.parent
        (createNode s v.descriptor v.progress) := if_neg (ne_true_of_eq_false hp)
    have hturns : v.turns s = turnsAfter s v.descriptor (createNode s v.descriptor v.progress) :=
      if_neg (ne_true_of_eq_false hp)
    have hmakes := makesNode s v.descriptor v.progress
    have hmadeNode : v.isMade s = (createNode s v.descriptor v.progress).value.isSome := rfl
    generalize createNode s v.descriptor v.progress = made at hstart hturns hmakes hmadeNode
    rw [hstart] at hend
    obtain ⟨_ | n, q, _ | h⟩ := made
    · refine ⟨failedResult v.descriptor, skippedBelow v.descriptor, rfl, ?_, ?_, .inr rfl, ?_, ?_⟩
      · rw [hmadeNode]; rfl
      · rw [hturns]; rfl
      · rw [Visit.lacksWrapper, hstart]; exact nofun
      · rw [Visit.lacksWrapper, hturns, hstart]
        exact hmakes rfl
    · cases hend
    · have hmade : Unharmed v.progress q := hmakes rfl
      have hgroup := hmade.trans (rel_groupContext Unharmed.allowsLookup s v.descriptor q)
      obtain ⟨hsubject, hstate⟩ := result_fill s v.descriptor n q
      obtain ⟨hfilled, own, below, hsettled⟩ := settled_afterProperties s v.descriptor v.parent
        (groupContext s v.descriptor q).1 hstate hend
      obtain ⟨failures, hfulfils⟩ := fulfils_applyProperties s v.descriptor
        v.descriptor.properties (newWork v.descriptor n) (groupContext s v.descriptor q).2 hfilled
      have hfaults : own.faults = failures := by
        rw [hsettled.faults, NodeResult.faults, hstate]
        exact (Nat.zero_add _).trans (hfulfils.failed.trans (Nat.zero_add _))
      refine ⟨own, below, hsettled.subject.trans hsubject, ?_, ?_, hsettled.skipped, ?_, ?_⟩
      · rw [hsettled.entries, hmadeNode]
        exact hfulfils.entries.trans (Nat.zero_add _)
      · rw [hsettled.blocked, hturns]
        exact hfulfils.blocked.trans (Nat.zero_add _)
      · rw [Visit.lacksWrapper, hstart]
        exact hsettled.wrapper
      · rw [hfaults, hturns, Visit.lacksWrapper, hstart]
        exact (hgroup.after hfulfils.reports).trans hsettled.reports
    · cases hend

theorem Balances.results_eq {v : Visit} {own : NodeResult} {below : List NodeResult}
    (h : Balances s v own below) : v.results s = own :: below := by
  rw [Visit.results, h.reports.results, List.drop_left]

/-- A node that is not built has no entries, and stands for no errors. -/
theorem eq_ofState_of_mem_skippedBelow {r : NodeResult} (h : r ∈ skippedBelow d) :
    ∃ typeName source, r = .ofState typeName .skipped source := by
  obtain ⟨b, -, rfl⟩ := List.mem_map.1 h
  exact ⟨b.typeName, b.source, rfl⟩

theorem Balances.below_eq {v : Visit} {own : NodeResult} {below : List NodeResult}
    (h : Balances s v own below) :
    ∀ r ∈ below, ∃ typeName source, r = .ofState typeName .skipped source := by
  intro r hr
  rcases h.skipped with rfl | rfl
  · exact absurd hr List.not_mem_nil
  · exact eq_ofState_of_mem_skippedBelow hr

/-- The sums over what is recorded at a visit are those of its own result. -/
theorem Balances.sum_results {v : Visit} {own : NodeResult} {below : List NodeResult}
    (h : Balances s v own below) (f : NodeResult → Nat)
    (hf : ∀ typeName source, f (.ofState typeName .skipped source) = 0) :
    ((v.results s).map f).sum = f own := by
  have hbelow : (below.map f).sum = 0 := by
    refine List.sum_eq_zero (List.forall_mem_map.2 fun r hr => ?_)
    obtain ⟨typeName, source, rfl⟩ := h.below_eq r hr
    exact hf typeName source
  rw [h.results_eq, List.map_cons, List.sum_cons, hbelow, Nat.add_zero]

/-! ## From visit to visit -/

/-- **The balance of some visits** that follow one another, with none at which the build ends. -/
theorem Course.balances {vs : List Visit} {halt : Option Halt} (h : Course s p vs q halt)
    (hend : halt = none) :
    (∀ v ∈ vs, ∃ own below, Balances s v own below) ∧
      Reports p q (vs.flatMap (Visit.results s))
        (((vs.flatMap (Visit.results s)).map NodeResult.faults).sum +
          objections s (vs.flatMap (Visit.turns s)) + vs.countP (Visit.lacksWrapper s)) := by
  induction h with
  | nil p => exact ⟨List.forall_mem_nil _, Unharmed.refl p⟩
  | ended => cases hend
  | @cons v vs q halt goesOn rest ih =>
    -- The nodes below the one of the visit that are left out stand for no errors of their own.
    obtain ⟨hrest, hreports⟩ := ih hend
    obtain ⟨own, below, hv⟩ := balances_start s v goesOn
    refine ⟨List.forall_mem_cons.2 ⟨⟨own, below, hv⟩, hrest⟩, ?_⟩
    have hboth := hv.reports.trans hreports
    have hfaults := hv.sum_results NodeResult.faults fun _ _ => rfl
    have hsum : ((v.results s ++ vs.flatMap (Visit.results s)).map NodeResult.faults).sum =
        own.faults + ((vs.flatMap (Visit.results s)).map NodeResult.faults).sum := by
      rw [List.map_append, List.sum_append, hfaults]
    have hobjections : objections s (v.turns s ++ vs.flatMap (Visit.turns s)) =
        objections s (v.turns s) + objections s (vs.flatMap (Visit.turns s)) := by
      rw [objections, List.map_append, List.sum_append]
      rfl
    rw [← hv.results_eq] at hboth
    rw [List.flatMap_cons, List.flatMap_cons, hsum, hobjections, List.countP_cons]
    refine ⟨hboth.results, hboth.errors.trans ?_⟩
    omega

/-- The blocked entries of some visits are counted in their results. -/
theorem sum_blocked {vs : List Visit} (h : ∀ v ∈ vs, ∃ own below, Balances s v own below) :
    ((vs.flatMap (Visit.results s)).map NodeResult.blocked).sum =
      blockedAmong s (vs.flatMap (Visit.turns s)) := by
  induction vs with
  | nil => rfl
  | cons v vs ih =>
    obtain ⟨⟨own, below, hv⟩, hrest⟩ := List.forall_mem_cons.1 h
    have hown := hv.sum_results NodeResult.blocked fun _ _ => rfl
    rw [List.flatMap_cons, List.map_append, List.sum_append, hown, hv.blocked, ih hrest,
      List.flatMap_cons, blockedAmong, blockedAmong, blockedAmong, List.countP_append]

theorem sum_faults (rs : List NodeResult) : (rs.map NodeResult.faults).sum =
    (rs.countP fun r => r.state = .failed) + (rs.map NodeResult.failed).sum := by
  induction rs with
  | nil => rfl
  | cons r rs ih =>
    rw [List.map_cons, List.sum_cons, ih, List.map_cons, List.sum_cons, List.countP_cons,
      NodeResult.faults]
    cases r.state <;> simp [NodeState.problems] <;> omega

/-- Validation has no errors about some entries exactly if none of them is blocked. -/
theorem objections_eq_zero_iff (ts : List Turn) :
    objections s ts = 0 ↔ blockedAmong s ts = 0 := by
  simp [objections, blockedAmong, List.sum_eq_zero_iff, Validation.isValid]

end Build

/-- **The report accounts for every property and every error**, whatever the layout, the container,
the registry, the settings and the collaborators. If a build comes to its end, its results are those
of the nodes that it came to, one after the other: the result of a node that was made counts each of
its entries once, and all other results count none. There is an error for each node that failed, for
each entry that failed, for each error of validation about an entry, and for each node that was
dropped because no wrapper could be made for its parent, and for nothing else; entries are blocked
exactly if validation has errors about them. So a report has no errors exactly if there is none of
these. -/
theorem report_balanced (b : Builder) (r : Registry) (plugins : PluginManager) (container : Node)
    (ds : List Descriptor) (source : Option String) (mode : Mode)
    (hend : (b.build r plugins container ds source mode).halt = none) :
    let s := b.setup r mode
    let report := (b.build r plugins container ds source mode).report
    let visits := b.visits r container ds source mode
    let turns := b.turns r container ds source mode
    report.nodes = visits.flatMap (Build.Visit.results s) ∧
      (∀ v ∈ visits, ∃ own below, v.results s = own :: below ∧
        own.subject = v.descriptor.subject ∧
        own.applied + own.skipped + own.blocked + own.failed =
          (if v.isMade s then v.descriptor.properties.length else 0) ∧
        ∀ r ∈ below, r.applied + r.skipped + r.blocked + r.failed = 0) ∧
      report.messageCount .error = report.stateCount .failed +
        (report.nodes.map NodeResult.failed).sum +
        (turns.map fun t => (t.findings s).errors.length).sum +
        visits.countP (Build.Visit.lacksWrapper s) ∧
      (report.nodes.map NodeResult.blocked).sum =
        (turns.countP fun t => !(t.findings s).isValid) ∧
      (∀ v ∈ visits, v.lacksWrapper s = true → v.parent.LacksWrapper s v.descriptor) ∧
      (report.hasErrors = false ↔ report.stateCount .failed = 0 ∧
        (∀ r ∈ report.nodes, r.blocked = 0 ∧ r.failed = 0) ∧
        ∀ v ∈ visits, v.lacksWrapper s = false) := by
  intro s report visits turns
  have hcourse := Build.course_buildAll s none ds ⟨container, false⟩
    (Builder.initial r container source mode)
  obtain ⟨hvisits, hreports⟩ := hcourse.balances hend
  have hnodes : report.nodes = visits.flatMap (Build.Visit.results s) := hreports.results
  have hblocked : (report.nodes.map NodeResult.blocked).sum = Build.blockedAmong s turns :=
    hnodes ▸ Build.sum_blocked hvisits
  have herrors : report.messageCount .error = report.stateCount .failed +
      (report.nodes.map NodeResult.failed).sum + Build.objections s turns +
      visits.countP (Build.Visit.lacksWrapper s) := by
    have hcount := hreports.errors
    rw [Build.sum_faults] at hcount
    rw [Report.stateCount, hnodes]
    exact hcount.trans (Nat.zero_add _)
  refine ⟨hnodes, fun v hv => ?_, herrors, hblocked, fun v hv => ?_, ?_⟩
  · obtain ⟨own, below, hv⟩ := hvisits v hv
    refine ⟨own, below, hv.results_eq, hv.subject, hv.entries, fun r hr => ?_⟩
    obtain ⟨_, _, rfl⟩ := hv.below_eq r hr
    rfl
  · obtain ⟨_, _, hv⟩ := hvisits v hv
    exact hv.wrapper
  · have hnone : report.hasErrors = false ↔ report.messageCount .error = 0 := by
      simp [Report.hasErrors]
    rw [hnone, herrors, Nat.add_eq_zero_iff, Nat.add_eq_zero_iff, Nat.add_eq_zero_iff,
      Build.objections_eq_zero_iff, ← hblocked]
    simp only [List.sum_eq_zero_iff, List.forall_mem_map, List.countP_eq_zero, Bool.not_eq_true,
      forall_and]
    tauto

/-- A label with a value that is blocked, one that cannot be assigned and a property without value,
above a node of an unknown type; then a second label with one below it. -/
def unwrappedLayout : List Descriptor := [
  ⟨"Label", [⟨"Width", some "abc"⟩, ⟨"Margin", some "wide"⟩, ⟨"Tag", none⟩], none,
    [.ofType "Nope"], none⟩,
  ⟨"Label", [], none, [.ofType "Label"], none⟩]

/-- A builder that does not look for types. -/
def unwrappedBuilder : Builder :=
  .standard { Settings.standard with autoRegister := false } ⟨[], []⟩ .standard

/-- A registry without a type for wrappers. -/
def unwrappedRegistry : Registry :=
  Registry.standard.withTypes (TypeRegistry.empty.registerAll [.contentControl "Label" []])

/-- In a window, which holds a single content, the second label is dropped. Of the four errors, one
is that of validation and one that of the wrapper. -/
theorem report_balanced_unwrappedLayout :
    let window := Node.ofClass 0 (.contentControl "Window" [])
    let o := unwrappedBuilder.build unwrappedRegistry (.empty false) window unwrappedLayout none
      .direct
    let s := unwrappedBuilder.setup unwrappedRegistry .direct
    let visits := unwrappedBuilder.visits unwrappedRegistry window unwrappedLayout none .direct
    let turns := unwrappedBuilder.turns unwrappedRegistry window unwrappedLayout none .direct
    o.halt = none ∧ o.report.nodes = [
        ⟨"Label", .success, none, 0, 1, 1, 1⟩, ⟨"Nope", .failed, none, 0, 0, 0, 0⟩,
        ⟨"Label", .skipped, none, 0, 0, 0, 0⟩, ⟨"Label", .skipped, none, 0, 0, 0, 0⟩] ∧
      o.report.messageCount .error = 4 ∧
      (turns.map fun t => (t.findings s).errors.length).sum +
        visits.countP (Build.Visit.lacksWrapper s) = 2 := by
  intro window o s visits turns
  have hend : o.halt = none := by decide +kernel
  obtain ⟨-, -, herrors, -⟩ := report_balanced unwrappedBuilder unwrappedRegistry (.empty false)
    window unwrappedLayout none .direct hend
  have hfour : o.report.messageCount .error = 4 := by decide +kernel
  have hnodes : o.report.stateCount .failed = 1 ∧
      (o.report.nodes.map NodeResult.failed).sum = 1 := by decide +kernel
  refine ⟨hend, by decide +kernel, hfour, ?_⟩
  change o.report.messageCount .error = o.report.stateCount .failed +
    (o.report.nodes.map NodeResult.failed).sum +
    (turns.map fun t => (t.findings s).errors.length).sum +
    visits.countP (Build.Visit.lacksWrapper s) at herrors
  omega

end LayoutTree
