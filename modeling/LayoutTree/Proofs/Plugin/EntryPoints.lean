import LayoutTree.Proofs.Plugin.Renumbering

/-!
# Bad entry points are passed over

An entry point offers a plugin that is loaded, one whose name is taken, or nothing that can be used
(`EntryVerdict`). Which it is depends on the names of the plugins that are loaded by then and on the
entry point alone, so it can be said of a list of entry points beforehand (`EntryPoint.verdicts`).

An entry point does what its verdict says (`loadEntryPoint_of_loads`, `loadEntryPoint_of_taken`,
`loadEntryPoint_of_bad`), where a plugin that fails leaves no more behind than numbers that are
passed over. The main statement is `loadsOnly_loadEntryPoints`: what comes of a list of entry points
is what comes of loading the good plugins among them, with one warning for each of the others. A
strict manager stops at the first that is bad.
-/

namespace LayoutTree

open LayoutTree.Text TypeRegistry

/-! ## Verdicts -/

/-- What becomes of an entry point. -/
inductive EntryVerdict
  /-- Its plugin is loaded. -/
  | loads (p : Plugin)
  /-- A plugin of this name is loaded already. -/
  | taken (name : String)
  /-- It cannot be used, as a text says. -/
  | bad (text : String)

namespace EntryVerdict

/-- The plugin that is loaded. -/
def plugin? : EntryVerdict → Option Plugin
  | loads p => some p
  | _ => none

/-- Why the entry point cannot be used, if so. -/
def fault? : EntryVerdict → Option String
  | bad text => some text
  | _ => none

/-- The warning about an entry point whose plugin is not loaded. -/
def warning? : EntryVerdict → Option String
  | loads _ => none
  | taken name => some ("Plugin " ++ quoted name ++ " is already loaded")
  | bad text => some text

/-- There is one warning for each entry point whose plugin is not loaded. -/
theorem length_warnings (vs : List EntryVerdict) :
    (vs.filterMap warning?).length = vs.countP fun v => v.plugin?.isNone := by
  induction vs with
  | nil => rfl
  | cons v vs ih => cases v <;> simp [List.filterMap_cons, warning?, plugin?, ih]

/-- The entry points that a manager comes past: all of them, or those before the first that is bad
if it is strict. -/
def passed (strict : Bool) (vs : List EntryVerdict) : List EntryVerdict :=
  vs.takeWhile fun v => !strict || v.fault?.isNone

/-- What it stops at, if so. -/
def stop? (strict : Bool) (vs : List EntryVerdict) : Option String :=
  if strict then vs.findSome? fault? else none

theorem passed_cons {strict : Bool} {v : EntryVerdict} (h : strict = true → v.fault? = none)
    (vs : List EntryVerdict) : passed strict (v :: vs) = v :: passed strict vs ∧
      stop? strict (v :: vs) = stop? strict vs := by
  cases strict with
  | false => exact ⟨rfl, rfl⟩
  | true =>
    have hnone := h rfl
    exact ⟨List.takeWhile_cons_of_pos (by simp [hnone]), by simp [stop?, hnone]⟩

theorem passed_eq_self {strict : Bool} {vs : List EntryVerdict}
    (h : strict = true → ∀ v ∈ vs, v.fault? = none) :
    passed strict vs = vs ∧ stop? strict vs = none := by
  induction vs with
  | nil => exact ⟨rfl, by cases strict <;> rfl⟩
  | cons v vs ih =>
    obtain ⟨hpassed, hstop⟩ := ih fun hs u hu => h hs u (List.mem_cons_of_mem _ hu)
    obtain ⟨hpassed', hstop'⟩ := passed_cons (fun hs => h hs v List.mem_cons_self) vs
    exact ⟨hpassed'.trans (congrArg _ hpassed), hstop'.trans hstop⟩

theorem passed_cons_of_fault {v : EntryVerdict} {text : String} (h : v.fault? = some text)
    (vs : List EntryVerdict) : passed true (v :: vs) = [] ∧ stop? true (v :: vs) = some text :=
  ⟨List.takeWhile_cons_of_neg (by simp [h]), by simp [stop?, h]⟩

theorem passed_append {before after : List EntryVerdict} {v : EntryVerdict} {text : String}
    (h : ∀ v ∈ before, v.fault? = none) (hv : v.fault? = some text) :
    passed true (before ++ v :: after) = before ∧
      stop? true (before ++ v :: after) = some text := by
  induction before with
  | nil => exact passed_cons_of_fault hv after
  | cons b before ih =>
    obtain ⟨hb, hbefore⟩ := List.forall_mem_cons.1 h
    obtain ⟨hpassed, hstop⟩ := ih hbefore
    obtain ⟨hpassed', hstop'⟩ := passed_cons (fun _ => hb) (before ++ v :: after)
    exact ⟨hpassed'.trans (congrArg _ hpassed), hstop'.trans hstop⟩

end EntryVerdict

namespace EntryPoint

/-- What becomes of an entry point where plugins of some names are loaded. -/
def verdict (names : List String) (e : EntryPoint) : EntryVerdict :=
  match e.content with
  | .unavailable => .bad ("Failed to load entrypoint " ++ quoted e.name)
  | .object => .bad ("Loaded from entrypoint " ++ quoted e.name ++ " object is not a plugin")
  | .plugin p =>
    if p.name ∈ names then .taken p.name
    else
      match p.failure with
      | some _ => .bad ("Plugin from entrypoint " ++ quoted e.name ++ " failed to initialize")
      | none => .loads p

/-- What becomes of entry points one after the other. -/
def verdicts (names : List String) : List EntryPoint → List EntryVerdict
  | [] => []
  | e :: rest =>
    let v := e.verdict names
    v :: verdicts (names ++ v.plugin?.toList.map (·.name)) rest

/-- A plugin that is loaded does not fail, and its name is not taken. -/
theorem of_verdict_eq_loads {names : List String} {e : EntryPoint} {p : Plugin}
    (h : e.verdict names = .loads p) :
    e.content = .plugin p ∧ p.name ∉ names ∧ p.failure = none := by
  unfold verdict at h
  split at h
  · cases h
  · cases h
  · next q hq =>
    split at h
    · cases h
    · next hname =>
      split at h
      · cases h
      · next hfailure =>
        cases h
        exact ⟨hq, hname, hfailure⟩

theorem of_verdict_eq_taken {names : List String} {e : EntryPoint} {name : String}
    (h : e.verdict names = .taken name) : ∃ p, e.content = .plugin p ∧ p.name = name ∧
      p.name ∈ names := by
  unfold verdict at h
  split at h
  · cases h
  · cases h
  · next p hp =>
    split at h
    · next hname =>
      cases h
      exact ⟨p, hp, rfl, hname⟩
    · split at h <;> cases h

/-- No plugin is loaded whose name is taken at the start. -/
theorem not_mem_of_mem_verdicts {names : List String} {points : List EntryPoint} {p : Plugin}
    (h : p ∈ (verdicts names points).filterMap EntryVerdict.plugin?) : p.name ∉ names := by
  induction points generalizing names with
  | nil => cases h
  | cons e rest ih =>
    have hrest : ∀ more, p ∈ (verdicts (names ++ more) rest).filterMap EntryVerdict.plugin? →
        p.name ∉ names := fun _ h hmem => ih h (List.mem_append_left _ hmem)
    rw [verdicts, List.filterMap_cons] at h
    cases hv : e.verdict names with
    | loads q =>
      simp only [hv, EntryVerdict.plugin?] at h
      rcases List.mem_cons.1 h with rfl | h
      · exact (of_verdict_eq_loads hv).2.1
      · exact hrest _ h
    | taken name =>
      simp only [hv, EntryVerdict.plugin?] at h
      exact hrest _ h
    | bad text =>
      simp only [hv, EntryVerdict.plugin?] at h
      exact hrest _ h

end EntryPoint

/-! ## One entry point -/

/-- The state that an outcome leads to. -/
def PluginOutcome.state {α : Type} (o : PluginOutcome α) : PluginState := ⟨o.manager, o.registry⟩

/-- The calls that load plugins of verdicts. -/
def EntryVerdict.calls (vs : List EntryVerdict) : List PluginCall :=
  (vs.filterMap plugin?).map .load

theorem EntryVerdict.runAll_calls_append (s : PluginState) (vs vs' : List EntryVerdict) :
    PluginCall.runAll s (calls (vs ++ vs')) = PluginCall.runAll (PluginCall.runAll s (calls vs))
      (calls vs') := by
  rw [calls, List.filterMap_append, List.map_append, PluginCall.runAll, List.foldl_append]
  rfl

/-- An outcome has a warning for each verdict that is not good, and leads to the state that comes of
loading the good ones from another state, but for numbers. -/
structure PluginOutcome.Follows {α : Type} (o : PluginOutcome α) (s₀ s : PluginState)
    (added : List LoadedPlugin) (vs : List EntryVerdict) : Prop where
  warnings : o.warnings = vs.filterMap EntryVerdict.warning?
  renumbers : ∃ ρ more, more.map LoadedPlugin.plugin = vs.filterMap EntryVerdict.plugin? ∧
    s₀.Renumbers ρ (added ++ more) (PluginCall.runAll s (EntryVerdict.calls vs)) o.state

namespace PluginOutcome.Follows

variable {α : Type} {o : PluginOutcome α} {s₀ s s' : PluginState} {added : List LoadedPlugin}
  {v : EntryVerdict} {vs : List EntryVerdict}

/-- The names of the plugins that were loaded are added. -/
theorem names {ρ : Nat → Nat} (h : o.Follows s₀ s added vs) (hstart : s₀.Renumbers ρ added s s') :
    o.manager.names =
      s'.manager.names ++ (vs.filterMap EntryVerdict.plugin?).map (·.name) := by
  obtain ⟨-, _, more, hmore, hrenumbers⟩ := h
  have hnames := hrenumbers.names_append
  rw [List.map_append, List.map_append, hmore, ← List.append_assoc, ← hstart.names_append] at hnames
  exact hnames

/-- What comes of one entry point is followed by what comes of the others. -/
theorem cons {β γ : Type} {first : PluginOutcome β} {others : PluginOutcome γ}
    {more : List LoadedPlugin}
    (hmore : more.map LoadedPlugin.plugin = [v].filterMap EntryVerdict.plugin?)
    (hfirst : first.warnings = [v].filterMap EntryVerdict.warning?)
    (hothers : others.Follows s₀ (PluginCall.runAll s (EntryVerdict.calls [v])) (added ++ more) vs)
    (hwarnings : o.warnings = first.warnings ++ others.warnings) (hstate : o.state = others.state) :
    o.Follows s₀ s added (v :: vs) := by
  obtain ⟨hwarnings', ρ, more', hmore', hrenumbers⟩ := hothers
  refine ⟨?_, ρ, more ++ more', ?_, ?_⟩
  · rw [hwarnings, hfirst, hwarnings', ← List.filterMap_append, List.singleton_append]
  · rw [List.map_append, hmore, hmore', ← List.filterMap_append, List.singleton_append]
  · rw [hstate, ← List.append_assoc, ← List.singleton_append, EntryVerdict.runAll_calls_append]
    exact hrenumbers

end PluginOutcome.Follows

namespace PluginManager

variable {m : PluginManager} {r : Registry} {e : EntryPoint}

theorem loadEntryPoint_of_loads {p : Plugin} (h : e.verdict m.names = .loads p) (r : Registry) :
    (m.loadEntryPoint r e).result = .ok () ∧ (m.loadEntryPoint r e).warnings = [] ∧
      (m.loadEntryPoint r e).state = PluginCall.run ⟨m, r⟩ (.load p) := by
  obtain ⟨hcontent, hname, hp⟩ := EntryPoint.of_verdict_eq_loads h
  have hfind := find?_eq_none hname
  simp only [loadEntryPoint, hcontent, load, hfind, Option.isSome_none, Bool.false_eq_true,
    if_false, hp, PluginOutcome.state, PluginCall.run, and_self]

theorem loadEntryPoint_of_taken {name : String} (h : e.verdict m.names = .taken name)
    (r : Registry) :
    (m.loadEntryPoint r e).result = .ok () ∧
      (m.loadEntryPoint r e).warnings = ["Plugin " ++ quoted name ++ " is already loaded"] ∧
      (m.loadEntryPoint r e).state = ⟨m, r⟩ := by
  obtain ⟨p, hcontent, rfl, hname⟩ := EntryPoint.of_verdict_eq_taken h
  obtain ⟨l, hl, hlname⟩ := List.mem_map.1 hname
  have hfind : (m.find? p.name).isSome := List.find?_isSome.2 ⟨l, hl, decide_eq_true hlname⟩
  simp only [loadEntryPoint, hcontent, load, hfind, if_true, PluginOutcome.state, and_self]

theorem issue_spec (o : PluginOutcome Unit) (text : String) :
    (issue o text).state = o.state ∧
      (issue o text).result = (if o.manager.strict then .error (.entryPoint text) else .ok ()) ∧
      (issue o text).warnings = if o.manager.strict then o.warnings else o.warnings ++ [text] := by
  unfold issue
  split <;> exact ⟨rfl, rfl, rfl⟩

/-- What comes of a bad entry point: an error or a warning, and no more than numbers of types that
are passed over. -/
structure Complains (m : PluginManager) (r : Registry) (text : String)
    (o : PluginOutcome (Except PluginFault Unit)) : Prop where
  manager : o.manager = m
  agrees : r.Agrees o.registry
  next_le : r.types.next ≤ o.registry.types.next
  result : o.result = if m.strict then .error (.entryPoint text) else .ok ()
  warnings : o.warnings = if m.strict then [] else [text]

theorem complains_issue {o : PluginOutcome Unit} (hm : o.manager = m) (hwarnings : o.warnings = [])
    (hagrees : r.Agrees o.registry) (hle : r.types.next ≤ o.registry.types.next) (text : String) :
    Complains m r text (issue o text) := by
  obtain ⟨hstate, hresult, hwarn⟩ := issue_spec o text
  obtain ⟨hmanager, hregistry⟩ := PluginState.mk.inj hstate
  rw [hm] at hresult hwarn
  rw [hwarnings] at hwarn
  exact ⟨hmanager.trans hm, hregistry ▸ hagrees, hregistry ▸ hle, hresult, hwarn⟩

/-- A bad entry point is an error or a warning. -/
theorem loadEntryPoint_of_bad (hr : r.types.WellFormed) {text : String}
    (h : e.verdict m.names = .bad text) : Complains m r text (m.loadEntryPoint r e) := by
  cases hcontent : e.content with
  | unavailable =>
    simp only [EntryPoint.verdict, hcontent, EntryVerdict.bad.injEq] at h
    subst h
    simp only [loadEntryPoint, hcontent]
    exact complains_issue (o := ⟨m, r, [], [], [], ()⟩) rfl rfl (.refl r) (Nat.le_refl _) _
  | object =>
    simp only [EntryPoint.verdict, hcontent, EntryVerdict.bad.injEq] at h
    subst h
    simp only [loadEntryPoint, hcontent]
    exact complains_issue (o := ⟨m, r, [], [], [], ()⟩) rfl rfl (.refl r) (Nat.le_refl _) _
  | plugin p =>
    simp only [EntryPoint.verdict, hcontent] at h
    split at h
    · cases h
    · next hname =>
      split at h
      · next message hp =>
        cases h
        obtain ⟨hresult, hm, hregistry⟩ := load_of_fails hname hp r
        simp only [loadEntryPoint, hcontent, hresult]
        refine complains_issue hm ?_ ?_ ?_ _
        · simp only [load, find?_eq_none hname, Option.isSome_none, Bool.false_eq_true, if_false,
            hp]
        · rw [hregistry]
          exact (agrees_revert_takeAll hr p).2
        · rw [hregistry]
          exact next_le_revert_takeAll hr p
      · cases h

/-- An entry point is followed by what its verdict says. A strict manager stops at a bad one. -/
theorem follows_loadEntryPoint {s₀ s : PluginState} {ρ : Nat → Nat} {added : List LoadedPlugin}
    (h : s₀.Renumbers ρ added s ⟨m, r⟩) (e : EntryPoint) :
    ((m.strict = true → (e.verdict m.names).fault? = none) →
      (m.loadEntryPoint r e).result = .ok () ∧
      (m.loadEntryPoint r e).Follows s₀ s added [e.verdict m.names]) ∧
    ∀ text, m.strict = true → (e.verdict m.names).fault? = some text →
      (m.loadEntryPoint r e).result = .error (.entryPoint text) ∧
      (m.loadEntryPoint r e).Follows s₀ s added [] := by
  cases hv : e.verdict m.names with
  | loads p =>
    obtain ⟨hresult, hwarnings, hstate⟩ := loadEntryPoint_of_loads hv r
    obtain ⟨-, hname, hp⟩ := EntryPoint.of_verdict_eq_loads hv
    have hload := h.load (h.names_eq ▸ hname) hp
    refine ⟨fun _ => ⟨hresult, hwarnings, ρ, [⟨p, (p.takeAll s.registry).record⟩], rfl, ?_⟩, nofun⟩
    rw [hstate]
    exact hload
  | taken name =>
    obtain ⟨hresult, hwarnings, hstate⟩ := loadEntryPoint_of_taken hv r
    refine ⟨fun _ => ⟨hresult, hwarnings, ρ, [], rfl, ?_⟩, nofun⟩
    rw [hstate, List.append_nil]
    exact h
  | bad text =>
    obtain ⟨hm, hagrees, hle, hresult, hwarnings⟩ :=
      loadEntryPoint_of_bad (h.registry.wellFormed h.wellFormed) hv
    obtain ⟨ρ', hskip⟩ := @PluginState.Renumbers.skip _ _ _ _ _ h (m.loadEntryPoint r e).state
      hm hagrees hle
    rw [← List.append_nil added] at hskip
    refine ⟨fun hstrict => ?_, fun text' hstrict htext => ?_⟩
    · have hlax : m.strict = false := by
        by_contra hne
        exact absurd (hstrict (Bool.of_not_eq_false hne)) nofun
      rw [hlax, if_neg Bool.false_ne_true] at hresult hwarnings
      exact ⟨hresult, hwarnings, ρ', [], rfl, hskip⟩
    · rw [if_pos hstrict] at hresult hwarnings
      cases htext
      exact ⟨hresult, hwarnings, ρ', [], rfl, hskip⟩

/-! ## All entry points -/

theorem loadEach_cons (h : (m.loadEntryPoint r e).result = .ok ()) (rest : List EntryPoint) :
    let first := m.loadEntryPoint r e
    let others := first.manager.loadEach first.registry rest
    (m.loadEach r (e :: rest)).result = others.result ∧
      (m.loadEach r (e :: rest)).warnings = first.warnings ++ others.warnings ∧
      (m.loadEach r (e :: rest)).state = others.state := by
  simp only [loadEach, h, PluginOutcome.state, and_self]

theorem strict_runAll_calls (s : PluginState) (vs : List EntryVerdict) :
    (PluginCall.runAll s (EntryVerdict.calls vs)).manager.strict = s.manager.strict := by
  have hload : ∀ (plugins : List Plugin) (s : PluginState),
      (PluginCall.runAll s (plugins.map .load)).manager.strict = s.manager.strict := by
    intro plugins
    induction plugins with
    | nil => exact fun s => rfl
    | cons p plugins ih => exact fun s => (ih _).trans (strict_load _ _ _)
  exact hload _ s

/-- The entry points that a manager comes past are followed by what their verdicts say. -/
theorem follows_loadEach {s₀ s : PluginState} {ρ : Nat → Nat} {added : List LoadedPlugin}
    (h : s₀.Renumbers ρ added s ⟨m, r⟩) (points : List EntryPoint) :
    let vs := EntryPoint.verdicts m.names points
    (m.loadEach r points).result =
      (EntryVerdict.stop? m.strict vs).elim (.ok ()) (.error ∘ .entryPoint) ∧
    (m.loadEach r points).Follows s₀ s added (EntryVerdict.passed m.strict vs) := by
  -- Both states go along with the entry points, apart by the numbers that were passed over so far.
  induction points generalizing m r s ρ added with
  | nil =>
    refine ⟨by cases m.strict <;> rfl, rfl, ρ, [], rfl, ?_⟩
    rw [List.append_nil]
    exact h
  | cons e rest ih =>
    obtain ⟨hpast, hstop⟩ := follows_loadEntryPoint h e
    dsimp only [EntryPoint.verdicts]
    by_cases hfault : m.strict = true → (e.verdict m.names).fault? = none
    · obtain ⟨hok, hfollows⟩ := hpast hfault
      have hnames : (m.loadEntryPoint r e).manager.names =
          m.names ++ (e.verdict m.names).plugin?.toList.map (·.name) := by
        refine (hfollows.names h).trans (congrArg _ ?_)
        cases e.verdict m.names <;> rfl
      obtain ⟨hwarnings, ρ', more, hmore, hfirst⟩ := hfollows
      have hstrict : (m.loadEntryPoint r e).manager.strict = m.strict :=
        hfirst.strict.trans ((strict_runAll_calls s _).trans h.strict.symm)
      obtain ⟨hresult, hothers⟩ := ih hfirst
      obtain ⟨heq, hwarn, hstate⟩ := loadEach_cons hok rest
      rw [hstrict, hnames] at hresult hothers
      obtain ⟨hpassed, hnostop⟩ := EntryVerdict.passed_cons hfault
        (EntryPoint.verdicts (m.names ++ (e.verdict m.names).plugin?.toList.map (·.name)) rest)
      rw [hpassed, hnostop]
      exact ⟨heq.trans hresult, .cons hmore hwarnings hothers hwarn hstate⟩
    · rw [Classical.not_imp, ← ne_eq, Option.ne_none_iff_exists'] at hfault
      obtain ⟨hstrict, text, htext⟩ := hfault
      obtain ⟨hresult, hfollows⟩ := hstop text hstrict htext
      obtain ⟨hpassed, hstopped⟩ := EntryVerdict.passed_cons_of_fault htext
        (EntryPoint.verdicts (m.names ++ (e.verdict m.names).plugin?.toList.map (·.name)) rest)
      have hfirst : m.loadEach r (e :: rest) = m.loadEntryPoint r e := by
        simp only [loadEach, hresult]
      rw [hfirst, hstrict, hpassed, hstopped]
      exact ⟨hresult, hfollows⟩

/-- The names that are there after loading and were not before are those of the plugins that were
loaded. -/
theorem names_filter_of_follows {α : Type} {o : PluginOutcome α} {vs : List EntryVerdict}
    (hr : r.types.WellFormed) (h : o.Follows ⟨m, r⟩ ⟨m, r⟩ [] vs)
    (hnew : ∀ p ∈ vs.filterMap EntryVerdict.plugin?, p.name ∉ m.names) :
    (o.manager.names.filter fun name => !m.names.contains name) =
      (vs.filterMap EntryVerdict.plugin?).map (·.name) := by
  have hnames := h.names (.refl hr)
  have hold : m.names.filter (fun name => !m.names.contains name) = [] :=
    List.filter_eq_nil_iff.2 fun name hname => by simpa using hname
  have hkept : ((vs.filterMap EntryVerdict.plugin?).map (·.name)).filter
      (fun name => !m.names.contains name) = (vs.filterMap EntryVerdict.plugin?).map (·.name) := by
    refine List.filter_eq_self.2 fun name hname => ?_
    obtain ⟨p, hp, rfl⟩ := List.mem_map.1 hname
    simpa using hnew p hp
  calc o.manager.names.filter (fun name => !m.names.contains name)
      = (m.names ++ (vs.filterMap EntryVerdict.plugin?).map (·.name)).filter
          fun name => !m.names.contains name := congrArg _ hnames
    _ = (vs.filterMap EntryVerdict.plugin?).map (·.name) := by
        rw [List.filter_append, hold, hkept, List.nil_append]

end PluginManager

/-- An outcome is that of loading the good plugins of verdicts in a state, with one warning for each
of the others. -/
structure PluginOutcome.LoadsOnly {α : Type} (o : PluginOutcome α) (s : PluginState)
    (vs : List EntryVerdict) : Prop where
  plugins : o.manager.loaded.map (·.plugin) =
    s.manager.loaded.map (·.plugin) ++ vs.filterMap EntryVerdict.plugin?
  state : s.SameSince (PluginCall.runAll s ((vs.filterMap EntryVerdict.plugin?).map .load)) o.state
  warnings : o.warnings = vs.filterMap EntryVerdict.warning?
  one_each : o.warnings.length = vs.countP fun v => v.plugin?.isNone

theorem PluginOutcome.Follows.loadsOnly {α : Type} {o : PluginOutcome α} {s : PluginState}
    {vs : List EntryVerdict} (h : o.Follows s s [] vs) : o.LoadsOnly s vs := by
  obtain ⟨hwarnings, ρ, more, hmore, hrenumbers⟩ := h
  rw [List.nil_append] at hrenumbers
  refine ⟨?_, ⟨ρ, more, hrenumbers⟩, hwarnings, hwarnings ▸ EntryVerdict.length_warnings vs⟩
  have hloaded := congrArg (List.map LoadedPlugin.plugin) hrenumbers.renumbered
  rw [List.map_append, List.map_map] at hloaded
  exact hmore ▸ hloaded

/-- **Bad entry points are passed over.** Loading the plugins of entry points comes to loading the
good ones among them, with one warning for each of the others, and gives the names of those. A
strict manager stops at the first bad entry point, after loading the good ones before it. -/
theorem loadsOnly_loadEntryPoints (m : PluginManager) {r : Registry} (h : r.types.WellFormed)
    (points : List EntryPoint) (group : String) :
    let vs := EntryPoint.verdicts m.names (points.filter fun e => e.group = group)
    let o := m.loadEntryPoints r points group
    ((m.strict = true → ∀ v ∈ vs, v.fault? = none) →
      o.result = .ok ((vs.filterMap EntryVerdict.plugin?).map (·.name)) ∧ o.LoadsOnly ⟨m, r⟩ vs) ∧
    ∀ before v after text, m.strict = true → vs = before ++ v :: after →
      (∀ b ∈ before, b.fault? = none) → v.fault? = some text →
      o.result = .error (.entryPoint text) ∧ o.LoadsOnly ⟨m, r⟩ before := by
  intro vs o
  have hstart : PluginState.Renumbers ⟨m, r⟩ id [] ⟨m, r⟩ ⟨m, r⟩ := .refl h
  obtain ⟨hresult, hfollows⟩ :=
    PluginManager.follows_loadEach hstart (points.filter fun e => e.group = group)
  have hnew : ∀ p ∈ vs.filterMap EntryVerdict.plugin?, p.name ∉ m.names := fun p hp =>
    EntryPoint.not_mem_of_mem_verdicts hp
  refine ⟨fun hpass => ?_, fun before v after text hstrict hvs hbefore hv => ?_⟩
  · obtain ⟨hpassed, hnostop⟩ := EntryVerdict.passed_eq_self hpass
    rw [hnostop] at hresult
    rw [hpassed] at hfollows
    -- The names are only read off the outcome, which has another type of result after it.
    have hfollows' : o.Follows ⟨m, r⟩ ⟨m, r⟩ [] vs := ⟨hfollows.warnings, hfollows.renumbers⟩
    refine ⟨?_, hfollows'.loadsOnly⟩
    rw [← PluginManager.names_filter_of_follows h hfollows' hnew]
    exact congrArg (Except.map _) hresult
  · obtain ⟨hpassed, hstopped⟩ := @EntryVerdict.passed_append before after v text hbefore hv
    rw [← hvs, ← hstrict] at hpassed hstopped
    rw [hstopped] at hresult
    rw [hpassed] at hfollows
    have hfollows' : o.Follows ⟨m, r⟩ ⟨m, r⟩ [] before := ⟨hfollows.warnings, hfollows.renumbers⟩
    exact ⟨congrArg (Except.map _) hresult, hfollows'.loadsOnly⟩

/-! ## Good and bad entry points -/

/-- A plugin that registers a type and then fails. -/
def failingPlugin : Plugin :=
  { Plugin.ofType "failing" "Badge" (.leaf "Badge" []) with failure := some "no display" }

/-- Two entry points of good plugins, and one of each other kind. -/
def mixedPoints : List EntryPoint := [
  ⟨"a", "plugins", .plugin (.ofType "first" "Badge" (.leaf "Badge" []))⟩,
  ⟨"b", "plugins", .plugin (.ofType "first" "Tag" (.leaf "Tag" []))⟩,
  ⟨"c", "plugins", .plugin failingPlugin⟩,
  ⟨"d", "plugins", .object⟩,
  ⟨"e", "plugins", .unavailable⟩,
  ⟨"f", "others", .unavailable⟩,
  ⟨"g", "plugins", .plugin (.ofType "second" "Tag" (.leaf "Tag" []))⟩]

/-- What becomes of them. -/
def mixedVerdicts : List EntryVerdict := [
  .loads (.ofType "first" "Badge" (.leaf "Badge" [])),
  .taken "first",
  .bad ("Plugin from entrypoint " ++ quoted "c" ++ " failed to initialize"),
  .bad ("Loaded from entrypoint " ++ quoted "d" ++ " object is not a plugin"),
  .bad ("Failed to load entrypoint " ++ quoted "e"),
  .loads (.ofType "second" "Tag" (.leaf "Tag" []))]

theorem loadsOnly_loadEntryPoints_mixed : badgeRegistry.types.WellFormed ∧
    (((PluginManager.empty false).loadEntryPoints badgeRegistry mixedPoints "plugins").result =
        .ok ["first", "second"] ∧
      ((PluginManager.empty false).loadEntryPoints badgeRegistry mixedPoints "plugins").LoadsOnly
        (.start false badgeRegistry) mixedVerdicts) ∧
    ((PluginManager.empty true).loadEntryPoints badgeRegistry mixedPoints "plugins").result =
        .error (.entryPoint ("Plugin from entrypoint " ++ quoted "c" ++ " failed to initialize")) ∧
      ((PluginManager.empty true).loadEntryPoints badgeRegistry mixedPoints "plugins").LoadsOnly
        (.start true badgeRegistry) (mixedVerdicts.take 2) := by
  have h : badgeRegistry.types.WellFormed := wellFormed_empty.register _ _
  have hbefore : ∀ b ∈ mixedVerdicts.take 2, b.fault? = none := by
    simp [mixedVerdicts, EntryVerdict.fault?]
  exact ⟨h, (loadsOnly_loadEntryPoints (.empty false) h mixedPoints "plugins").1 nofun,
    (loadsOnly_loadEntryPoints (.empty true) h mixedPoints "plugins").2 (mixedVerdicts.take 2)
      _ (mixedVerdicts.drop 3) _ rfl rfl hbefore rfl⟩

end LayoutTree
