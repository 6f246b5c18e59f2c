import LayoutTree.Proofs.Build.Echoing
import LayoutTree.Proofs.Build.Turns

/-!
# Types that are found on the way

A build may begin without types and look for them in a module as it comes to them, in descriptors
and for wrappers. If the names of the classes of the module differ in more than case, then it does
not matter when they are registered: the build comes to the same as one that knows all of them from
the start (`Builder.build_discovering`). How the two stand to each other on the way is `Discovers`;
the induction over the forest is that of builds side by side.

Whatever modules a build looks in, it takes no type away and replaces none: registries only get
further entries (`TypeRegistry.Keeps`), at a look-up (`keeps_findType`), from one node to the next
(`types_start`) and along the build (`Course.keeps`).
-/

namespace LayoutTree

open LayoutTree.Text

/-! ## Registries -/

namespace TypeRegistry

/-- The entries stay what they are and where they are; further ones come after them. -/
def Keeps (r r' : TypeRegistry) : Prop := r.entries <+: r'.entries

theorem putNamed_of_lookup_eq_none {α : Type} {name : String} (a : α) {l : List (String × α)}
    (h : l.lookup name = none) : putNamed name a l = l ++ [(name, a)] := by
  induction l with
  | nil => rfl
  | cons e l ih =>
    obtain ⟨k, b⟩ := e
    by_cases hk : k = name
    · simp [hk] at h
    · rw [List.lookup_cons, beq_eq_false_iff_ne.2 (Ne.symm hk)] at h
      rw [putNamed, if_neg hk, ih h, List.cons_append]

/-- A name that stands for nothing comes after the others. -/
theorem entries_register {r : TypeRegistry} {name : String} (h : r.resolve name = none)
    (cls : NodeClass) : (r.register name cls).2.entries =
      r.entries ++ [(typeKey name, ⟨r.next, name, cls, cls.create⟩)] :=
  putNamed_of_lookup_eq_none _ h

theorem classNamed?_congr {name other : String} (h : typeKey name = typeKey other)
    (m : TypeModule) : classNamed? m name = classNamed? m other := by
  rw [classNamed?, classNamed?, h]

theorem keeps_autoRegister {index : ModuleIndex} {r : TypeRegistry} {name : String}
    (hnone : r.resolve name = none) {modules : List String} {log : Log} {found : Option NodeType}
    {r' : TypeRegistry} (h : autoRegister index r name modules = (log, .ok (found, r'))) :
    r.Keeps r' := by
  rcases autoRegister_cases h with ⟨-, rfl⟩ | ⟨m, -, c, hc, rfl, -⟩
  · exact List.prefix_rfl
  · rw [← resolve_congr (typeKey_of_classNamed? hc)] at hnone
    rw [Keeps, entries_register hnone]
    exact List.prefix_append _ _

/-- A type is looked for in a single module. -/
theorem autoRegister_singleton {index : ModuleIndex} {name : String} {m : TypeModule}
    (h : index.find name = .ok m) (r : TypeRegistry) (typeName : String) :
    autoRegister index r typeName [name] = match classNamed? m typeName with
      | some c => ([⟨.debug, channel, "Auto-registered " ++ c.name ++ " from " ++ m.name⟩],
          .ok ((r.register c.name c).2.resolve typeName, (r.register c.name c).2))
      | none => ([], .ok (none, r)) := by
  rw [autoRegister, h]
  rfl

/-- Once classes are registered whose names differ in more than case, each is found by its name, and
other names stand for what they stood for. -/
theorem create_registerAll {classes : List NodeClass}
    (h : (classes.map fun c => typeKey c.name).Nodup) (r : TypeRegistry) (name : String) :
    ((r.registerAll classes).resolve name).map NodeType.create =
      ((classes.find? fun c => typeKey c.name = typeKey name).map NodeClass.create).or
        ((r.resolve name).map NodeType.create) := by
  induction classes generalizing r with
  | nil => rfl
  | cons c classes ih =>
    obtain ⟨hc, hclasses⟩ := List.nodup_cons.1 h
    refine (ih hclasses (r.register c.name c).2).trans ?_
    by_cases hname : typeKey c.name = typeKey name
    · have hothers : (classes.find? fun c => typeKey c.name = typeKey name) = none := by
        refine List.find?_eq_none.2 fun c' hc' heq => hc (List.mem_map.2 ⟨c', hc', ?_⟩)
        simpa [hname] using heq
      rw [hothers, List.find?_cons_of_pos (by simpa using hname), ← resolve_congr hname,
        resolve_register]
      rfl
    · rw [List.find?_cons_of_neg (by simpa using hname),
        resolve_register_of_ne r c (Ne.symm hname)]

/-- A name stands for a type exactly if a class of the module has it, and then the type makes the
nodes of that class. -/
def Offers (r : TypeRegistry) (m : TypeModule) : Prop :=
  ∀ name, (r.resolve name).map NodeType.create = (classNamed? m name).map NodeClass.create

theorem resolve_of_entries_eq_nil {r : TypeRegistry} (h : r.entries = []) (name : String) :
    r.resolve name = none := by
  rw [resolve, h]
  rfl

theorem offers_registerAll {m : TypeModule} (h : (m.classes.map fun c => typeKey c.name).Nodup)
    {r : TypeRegistry} (hempty : r.entries = []) : (r.registerAll m.classes).Offers m := by
  intro name
  rw [create_registerAll h, resolve_of_entries_eq_nil hempty, Option.map_none, Option.or_none]
  rfl

end TypeRegistry

/-! ## Reports -/

namespace Report

/-- The report without the messages that only inform. -/
def withoutInfo (r : Report) : Report :=
  { r with messages := r.messages.filter fun m => m.severity ≠ .info }

theorem withoutInfo_addMessage (r : Report) {m : BuildMessage} (h : m.severity ≠ .info) :
    (r.addMessage m).withoutInfo = r.withoutInfo.addMessage m := by
  simp [withoutInfo, addMessage, List.filter_append, h]

theorem withoutInfo_inform (r : Report) {m : BuildMessage} (h : m.severity = .info) :
    (r.addMessage m).withoutInfo = r.withoutInfo := by
  simp [withoutInfo, addMessage, List.filter_append, h]

theorem ofSeverity_addMessage (r : Report) (m : BuildMessage) (severity : Severity) :
    (r.addMessage m).ofSeverity severity =
      r.ofSeverity severity ++ if m.severity = severity then [m.text] else [] := by
  rw [ofSeverity, addMessage, List.filter_append, List.map_append, List.filter_cons]
  by_cases h : m.severity = severity <;> simp [h, ofSeverity]

theorem ofSeverity_withoutInfo (r : Report) : r.withoutInfo.ofSeverity .info = [] := by
  simp [withoutInfo, ofSeverity, List.filter_filter]

end Report

namespace Build

variable {s : Setup} {p q : Progress}

/-! ## Nothing is taken away -/

theorem keeps_findType (s : Setup) (d : Descriptor) (name : String) (p : Progress) :
    p.types.Keeps (findType s d name p).progress.types := by
  rw [findType]
  split
  · exact List.prefix_rfl
  · next hnone =>
    split
    · exact List.prefix_rfl
    · cases hauto : p.types.autoRegister s.modules name s.settings.autoRegisterModules with
      | mk log result =>
        rcases result with fault | ⟨_ | t, types⟩
        · exact List.prefix_rfl
        · exact TypeRegistry.keeps_autoRegister hnone hauto
        · exact TypeRegistry.keeps_autoRegister hnone hauto

theorem isKept_types (P : TypeRegistry → Prop) :
    IsKept fun p q : Progress => q = p ∧ P p.types where
  cancelled := by rintro p _ ⟨rfl, -⟩; rfl
  nextId := by rintro p _ ⟨rfl, -⟩; rfl
  emit := by rintro p _ ⟨rfl, hp⟩ d property severity text -; exact ⟨rfl, hp⟩
  addNode := by rintro p _ ⟨rfl, hp⟩ r; exact ⟨rfl, hp⟩
  take := by rintro p _ ⟨rfl, hp⟩ step; exact ⟨rfl, hp⟩
  wait := by
    rintro p _ ⟨rfl, hp⟩ mode
    refine ⟨rfl, ?_⟩
    rw [Progress.wait]
    split <;> exact hp
  hear := by
    rintro p _ ⟨rfl, hp⟩ mode asks
    refine ⟨rfl, ?_⟩
    rw [Progress.hear]
    split <;> exact hp
  log := by rintro p _ ⟨rfl, hp⟩ more; exact ⟨rfl, hp⟩
  next := by rintro p _ ⟨rfl, hp⟩; exact ⟨rfl, hp⟩

/-- What look-ups of types keep is kept at a node: the build is put beside itself. -/
theorem types_start {P : TypeRegistry → Prop}
    (hfind : ∀ d name p, P p.types → P (findType s d name p).progress.types) (v : Visit)
    (hv : P v.progress.types) : P (v.start s).progress.types := by
  have halike : FindsAlike (fun p q => q = p ∧ P p.types) s
      (s.registering s.settings.autoRegister) := by
    rintro d name p _ ⟨rfl, hp⟩
    exact ⟨rfl, rfl, rfl, hfind d name _ hp⟩
  obtain ⟨-, -, -, hkept⟩ := echoes_start (isKept_types P) halike v.descriptor v.parent v.progress
    v.progress ⟨rfl, hv⟩
  exact hkept

namespace Course

variable {vs : List Visit} {halt : Option Halt}

/-- What every visit keeps of the types holds along the build. -/
theorem forall_types {P : TypeRegistry → Prop} (h : Course s p vs q halt) (hp : P p.types)
    (hkept : ∀ v : Visit, P v.progress.types → P (v.start s).progress.types) :
    ∀ types ∈ vs.map (·.progress.types) ++ [q.types], P types := by
  obtain ⟨hvisits, hend⟩ := h.forall_progress (P := fun p => P p.types) hp hkept
  exact List.forall_mem_append.2 ⟨List.forall_mem_map.2 hvisits, List.forall_mem_singleton.2 hend⟩

/-- No type is taken away or replaced along the build. -/
theorem keeps (h : Course s p vs q halt) :
    (p.types :: (vs.map (·.progress.types) ++ [q.types])).Pairwise TypeRegistry.Keeps := by
  have hfrom : ∀ (base : TypeRegistry) (v : Visit), base.Keeps v.progress.types →
      base.Keeps (v.start s).progress.types := fun base =>
    types_start fun d name p hp => hp.trans (keeps_findType s d name p)
  refine List.pairwise_cons.2 ⟨h.forall_types List.prefix_rfl (hfrom p.types), ?_⟩
  induction h with
  | nil => exact List.pairwise_singleton _ _
  | ended => exact List.pairwise_pair.2 (hfrom _ _ List.prefix_rfl)
  | @cons v vs q halt _ rest ih =>
    have hrest := rest.forall_types (hfrom _ v List.prefix_rfl) (hfrom v.progress.types)
    exact List.pairwise_cons.2 ⟨hrest, ih⟩

end Course

/-! ## Look-ups in one module -/

/-- What is reported about a type that is found in a module. -/
def foundText (typeName : String) : String := "Auto-registered type " ++ quoted typeName

/-- The progress once a class of a module is found. -/
def discover (m : TypeModule) (d : Descriptor) (c : NodeClass) (p : Progress) : Progress :=
  let entry : LogEntry :=
    ⟨.debug, TypeRegistry.channel, "Auto-registered " ++ c.name ++ " from " ++ m.name⟩
  { p with log := p.log ++ [entry], types := (p.types.register c.name c).2 }.emit d none .info
    (foundText c.name)

/-- How a build that begins without types and looks for them in a module stands to one that knows
them all: each type that it knows makes the same nodes as the class of that name, and it has
informed about each of them once. -/
structure Discovers (m : TypeModule) (full : TypeRegistry) (p q : Progress) : Prop where
  report : q.report = p.report.withoutInfo
  types : q.types = full
  nextId : q.nextId = p.nextId
  cancelled : q.cancelled = p.cancelled
  waits : q.waits = p.waits
  steps : q.steps = p.steps
  known : ∀ name t, p.types.resolve name = some t →
    (TypeRegistry.classNamed? m name).map NodeClass.create = some t.create
  informed : p.report.ofSeverity .info = p.types.names.map foundText

theorem findType_of_resolve {name : String} {t : NodeType} (h : p.types.resolve name = some t)
    (d : Descriptor) : findType s d name p = .done (some t) p := by
  rw [findType, h]

section OneModule

variable {moduleName : String} {m : TypeModule}
  (hmodules : s.settings.autoRegisterModules = [moduleName])
  (hfind : s.modules.find moduleName = .ok m)
include hmodules hfind

theorem findType_of_classNamed? (hauto : s.settings.autoRegister = true) {name : String}
    (hnone : p.types.resolve name = none) {c : NodeClass}
    (hc : TypeRegistry.classNamed? m name = some c) (d : Descriptor) :
    findType s d name p = .done (some ⟨p.types.next, c.name, c, c.create⟩) (discover m d c p) := by
  have hresolve : (p.types.register c.name c).2.resolve name =
      some ⟨p.types.next, c.name, c, c.create⟩ := by
    rw [← TypeRegistry.resolve_congr (TypeRegistry.typeKey_of_classNamed? hc),
      TypeRegistry.resolve_register]
  rw [findType, hnone, hauto, hmodules, TypeRegistry.autoRegister_singleton hfind, hc]
  simp only [hresolve, Bool.not_true, Bool.false_eq_true, if_false]
  rfl

theorem findType_of_unknown {name : String} (hnone : p.types.resolve name = none)
    (hc : TypeRegistry.classNamed? m name = none) (d : Descriptor) :
    findType s d name p = .done none p := by
  rw [findType, hnone, hmodules, TypeRegistry.autoRegister_singleton hfind, hc]
  simp only [List.append_nil]
  cases s.settings.autoRegister <;> rfl

/-- A build that knows all types of a module finds no further ones in it. -/
theorem types_findType_full {full : TypeRegistry} (hfull : full.Offers m) (d : Descriptor)
    (name : String) (p : Progress) (h : p.types = full) :
    (findType s d name p).progress.types = full := by
  have hfull := h ▸ hfull name
  cases hresolve : p.types.resolve name with
  | some t =>
    rw [findType_of_resolve hresolve]
    exact h
  | none =>
    have hc : TypeRegistry.classNamed? m name = none := by simpa [hresolve, eq_comm] using hfull
    rw [findType_of_unknown hmodules hfind hresolve hc]
    exact h

end OneModule

/-! ## Side by side -/

namespace Discovers

variable {m : TypeModule} {full : TypeRegistry}

theorem isKept (m : TypeModule) (full : TypeRegistry) : IsKept (Discovers m full) where
  cancelled h := h.cancelled
  nextId h := h.nextId
  emit {p q} h d property severity text hseverity :=
    { h with
      report := by
        refine Eq.trans ?_ (Report.withoutInfo_addMessage p.report hseverity).symm
        rw [← h.report]
        rfl
      informed := by
        refine (Report.ofSeverity_addMessage p.report _ _).trans ?_
        rw [if_neg hseverity, List.append_nil]
        exact h.informed }
  addNode {p q} h r :=
    { h with report := by rw [Progress.addNode, Progress.addNode, h.report]; rfl }
  take h step := { h with steps := congrArg (· ++ [step]) h.steps }
  wait {p q} h mode := by
    rw [Progress.wait, Progress.wait, h.waits]
    split
    · exact { h with
        cancelled := congrArg (· || mode.isCancelledAt p.waits) h.cancelled
        waits := rfl }
    · exact h
  hear {p q} h mode asks := by
    rw [Progress.hear, Progress.hear]
    split
    · exact { h with
        cancelled := congrArg (· || mode.isCancellable) h.cancelled
        steps := congrArg (· ++ [BuildStep.ask]) h.steps }
    · exact h
  log h _ := { h with }
  next h := { h with nextId := congrArg (· + 1) h.nextId }

/-- A class that is found is one more type that is known, and is informed about. -/
theorem discover (h : Discovers m full p q) {name : String} (hnone : p.types.resolve name = none)
    {c : NodeClass} (hc : TypeRegistry.classNamed? m name = some c) (d : Descriptor) :
    Discovers m full (Build.discover m d c p) q := by
  have hkey := TypeRegistry.typeKey_of_classNamed? hc
  rw [← TypeRegistry.resolve_congr hkey] at hnone
  refine { h with report := ?_, known := fun other t ht => ?_, informed := ?_ }
  · rw [h.report]
    exact (Report.withoutInfo_inform _ rfl).symm
  · change (p.types.register c.name c).2.resolve other = some t at ht
    by_cases hother : TypeRegistry.typeKey other = TypeRegistry.typeKey c.name
    · rw [TypeRegistry.resolve_congr hother, TypeRegistry.resolve_register, Option.some.injEq] at ht
      rw [TypeRegistry.classNamed?_congr (hother.trans hkey), hc, ← ht]
      rfl
    · rw [TypeRegistry.resolve_register_of_ne _ _ hother] at ht
      exact h.known other t ht
  · have hnames : (Build.discover m d c p).types.names = p.types.names ++ [c.name] := by
      change (p.types.register c.name c).2.names = _
      rw [TypeRegistry.names, TypeRegistry.entries_register hnone, List.map_append]
      rfl
    rw [hnames, List.map_append, ← h.informed]
    exact Report.ofSeverity_addMessage _ _ _

/-- A type is found by the one build if it is found by the other: it is known, a class of the module
or unknown to both. -/
theorem findsAlike {moduleName : String} (hauto : s.settings.autoRegister = true)
    (hmodules : s.settings.autoRegisterModules = [moduleName])
    (hfind : s.modules.find moduleName = .ok m) (hfull : full.Offers m) (on : Bool) :
    FindsAlike (Discovers m full) s (s.registering on) := by
  intro d name p q h
  have hfull := h.types ▸ hfull name
  have halike : ∀ {t : NodeType}, (TypeRegistry.classNamed? m name).map NodeClass.create =
      some t.create → ∃ t', findType (s.registering on) d name q = .done (some t') q ∧
        t'.create = t.create := by
    intro t ht
    obtain ⟨t', ht', hcreate⟩ := Option.map_eq_some_iff.1 (hfull.trans ht)
    exact ⟨t', findType_of_resolve ht' d, hcreate⟩
  cases hknown : p.types.resolve name with
  | some t =>
    obtain ⟨t', hfound, hcreate⟩ := halike (h.known name t hknown)
    rw [hfound, findType_of_resolve hknown]
    exact ⟨congrArg some hcreate, rfl, h⟩
  | none =>
    cases hc : TypeRegistry.classNamed? m name with
    | some c =>
      obtain ⟨t', hfound, hcreate⟩ := @halike ⟨p.types.next, c.name, c, c.create⟩ (by rw [hc]; rfl)
      rw [hfound, findType_of_classNamed? hmodules hfind hauto hknown hc]
      exact ⟨congrArg some hcreate, rfl, h.discover hknown hc d⟩
    | none =>
      have hunknown : q.types.resolve name = none := by simpa [hc] using hfull
      rw [findType_of_unknown hmodules hfind hknown hc,
        findType_of_unknown (s := s.registering on) hmodules hfind hunknown hc]
      exact ⟨rfl, rfl, h⟩

end Discovers

end Build

/-! ## Builds -/

/-- What a build that looks for types on the way comes to, `found`, compared with one that knows
them from the start, `known`. -/
structure BuildOutcome.Discovers (found known : BuildOutcome) : Prop where
  container : known.container = found.container
  halt : known.halt = found.halt
  steps : known.steps = found.steps
  report : known.report = found.report.withoutInfo
  /-- The one informs about each type that it has registered, once; the other about none. -/
  informed : found.report.ofSeverity .info = found.registry.types.names.map Build.foundText
  silent : known.report.ofSeverity .info = []

namespace Builder

/-- The builder that looks for unknown types in modules, or one that does not. -/
def registering (b : Builder) (on : Bool) : Builder :=
  { b with settings := { b.settings with autoRegister := on } }

/-- The types that a build knows at its start, at each node that it comes to, and at its end. -/
def typesAlong (b : Builder) (r : Registry) (container : Node) (ds : List Descriptor)
    (source : Option String) (mode : Mode) : List TypeRegistry :=
  let visits := b.visits r container ds source mode
  let built := Build.buildAll (b.setup r mode) ds ⟨container, false⟩
    (initial r container source mode)
  r.types :: (visits.map (·.progress.types) ++ [built.progress.types])

variable (b : Builder) (r : Registry) (plugins : PluginManager) (container : Node)
  (ds : List Descriptor) (source : Option String) (mode : Mode)

/-- No build takes away or replaces a type. -/
theorem keeps_typesAlong :
    (b.typesAlong r container ds source mode).Pairwise TypeRegistry.Keeps :=
  (Build.course_buildAll (b.setup r mode) none ds ⟨container, false⟩
    (initial r container source mode)).keeps

/-- **Types can be registered when they are needed.** A build that begins without types and looks
for them in one module, whose classes have names that differ in more than case, comes to the same as
a build that begins with all classes of the module, whether or not the latter looks for further
types. Only the former informs about types, once about each that it registers. Neither takes away or
replaces a type; the latter has the same types all along. -/
theorem build_discovering {moduleName : String} {m : TypeModule} (on : Bool)
    (hauto : b.settings.autoRegister = true)
    (hmodules : b.settings.autoRegisterModules = [moduleName])
    (hfind : b.modules.find moduleName = .ok m)
    (hdistinct : (m.classes.map fun c => TypeRegistry.typeKey c.name).Nodup)
    (hempty : r.types.entries = []) :
    let full := r.withTypes (r.types.registerAll m.classes)
    (b.build r plugins container ds source mode).Discovers
        ((b.registering on).build full plugins container ds source mode) ∧
      (b.typesAlong r container ds source mode).Pairwise TypeRegistry.Keeps ∧
      ∀ types ∈ (b.registering on).typesAlong full container ds source mode,
        types = full.types := by
  intro full
  have hfull : full.types.Offers m := TypeRegistry.offers_registerAll hdistinct hempty
  have hstart : Build.Discovers m full.types (initial r container source mode)
      (initial full container source mode) := by
    refine ⟨rfl, rfl, rfl, rfl, rfl, rfl, fun name t ht => ?_, ?_⟩
    · cases (TypeRegistry.resolve_of_entries_eq_nil hempty name).symm.trans ht
    · change [] = (r.types.entries.map (·.2.name)).map Build.foundText
      rw [hempty]
      rfl
  obtain ⟨hvalue, hhalt, hprogress⟩ := Build.echoes_buildAll (Build.Discovers.isKept m full.types)
    (Build.Discovers.findsAlike (s := b.setup r mode) hauto hmodules hfind hfull on) ds
    ⟨container, false⟩ _ _ hstart
  have hreport := congrArg (·.close full plugins) hprogress.report
  have hsilent := (congrArg (Report.ofSeverity · .info) hreport).trans
    (Report.ofSeverity_withoutInfo _)
  have hcourse := Build.course_buildAll ((b.registering on).setup full mode) none ds
    ⟨container, false⟩ (initial full container source mode)
  have hkept : ∀ v : Build.Visit, v.progress.types = full.types →
      (v.start ((b.registering on).setup full mode)).progress.types = full.types :=
    Build.types_start (P := (· = full.types)) (Build.types_findType_full hmodules hfind hfull)
  exact ⟨⟨congrArg Build.Frame.node hvalue, hhalt, hprogress.steps, hreport, hprogress.informed,
    hsilent⟩, b.keeps_typesAlong r container ds source mode,
    List.forall_mem_cons.2 ⟨rfl, hcourse.forall_types rfl hkept⟩⟩

end Builder

/-- A layout with two spellings of a name, a node of an unknown type and a second root, which needs
a wrapper in a window. -/
def spelledLayout : List Descriptor := [
  ⟨"button", [⟨"Content", some "Save"⟩], none, [.ofType "Nope"], none⟩,
  ⟨"BUTTON", [], none, [.ofType "TextBlock"], none⟩]

theorem build_discovering_spelledLayout :
    let window := Node.ofClass 0 (.contentControl "Window" [])
    let b := Builder.standard .standard ⟨[], []⟩ .standard
    let full := Registry.standard.withTypes (TypeRegistry.empty.registerAll NodeClass.widgets)
    let found := b.build .standard (.empty false) window spelledLayout none .direct
    let known := (b.registering false).build full (.empty false) window spelledLayout none .direct
    found.registry.types.names = ["Button", "StackPanel", "TextBlock"] ∧
      known.registry.types.names = NodeClass.widgets.map (·.name) ∧
      known.container = found.container ∧ known.report = found.report.withoutInfo ∧
      found.report.ofSeverity .info = ["Auto-registered type 'Button'",
        "Auto-registered type 'StackPanel'", "Auto-registered type 'TextBlock'"] := by
  intro window b full found known
  have hnames : found.registry.types.names = ["Button", "StackPanel", "TextBlock"] := by
    decide +kernel
  have hfind : b.modules.find "dynui.widgets" = .ok ⟨"dynui.widgets", false, NodeClass.widgets⟩ :=
    rfl
  obtain ⟨h, -, -⟩ := b.build_discovering .standard (.empty false) window spelledLayout none .direct
    false rfl rfl hfind (by decide +kernel) rfl
  refine ⟨hnames, by decide +kernel, h.container, h.report, ?_⟩
  rw [h.informed, hnames]
  decide +kernel

end LayoutTree
