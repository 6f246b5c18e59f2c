import LayoutTree.Files.Store
import LayoutTree.Property.Setter

/-!
# Values of a type

`Target.admits` says which values belong to a type. Every way to convert a raw value gives a value
of its type: structured data that is taken for a value (`admits_read`), the converters of the library
(`admits_convert`), and hence the conversion of a text that is not empty (`admits_apply`). The empty
text stands for the zero of a type, and a type without one has the absence of a value in its place
(`admits_zero`).

The main statement is `admits_declared`: what the setter of declared properties stores belongs to the
declared type.
-/

namespace LayoutTree

open LayoutTree.Text LayoutTree.Number

namespace Target

mutual

/-- Whether a value belongs to a type. -/
def admits : Target → Value → Bool
  | .text, .text _ => true
  | .integer, .integer _ => true
  | .number, .number _ => true
  | .truth, .truth _ => true
  | .decimal, .decimal _ => true
  | .complex, .complex _ => true
  | .any, _ => true
  | .object, _ => true
  | .nothing, .none => true
  | .bytes, .bytes _ => true
  | .date, .date _ => true
  | .time, .time _ => true
  | .dateTime, .dateTime _ => true
  | .duration, .duration _ => true
  | .uuid, .uuid _ => true
  | .path, .path _ => true
  | .list item, .list vs => vs.all fun v => admits item v
  | .set item, .set vs => vs.all fun v => admits item v
  | .tuple items, .tuple vs => admitsEach items vs
  | .dict key value, .dict entries => entries.all fun e => admits key e.1 && admits value e.2
  | .choice options, .text s => options.contains s
  | .union members, v => admitsAmong members v
  | .annotated base, v => admits base v
  | .enumeration e, .member name m => name = e.name && e.names.contains m
  | .record .thickness, .thickness _ => true
  | .record .cornerRadius, .cornerRadius _ => true
  | .record .gridLength, .gridLength _ => true
  | .record .color, .color _ => true
  | .record .point, .point _ => true
  | .record .gradientStop, .gradientStop _ => true
  | .record (.brush k), .brush b => k.includes b.kind
  | .kind name _, .instance className => className = name
  | _, _ => false

/-- Whether a value belongs to one of some types. -/
def admitsAmong : List Target → Value → Bool
  | [], _ => false
  | t :: ts, v => admits t v || admitsAmong ts v

/-- Whether values belong to as many types, one to each. -/
def admitsEach : List Target → List Value → Bool
  | [], [] => true
  | t :: ts, v :: vs => admits t v && admitsEach ts vs
  | _, _ => false

end

theorem admitsAmong_iff {members : List Target} {v : Value} :
    admitsAmong members v = true ↔ ∃ t ∈ members, t.admits v = true := by
  induction members with
  | nil => simp [admitsAmong]
  | cons t ts ih => simp [admitsAmong, ih]

/-- A type without the permission to be absent has no other values than the type itself. -/
theorem admits_of_unwrapped {t : Target} {v : Value} (h : t.unwrapped.admits v = true) :
    t.admits v = true := by
  cases t with
  | union members =>
    rw [unwrapped] at h
    split at h
    · next t hmembers =>
      have ht : t ∈ members := (List.mem_filter.1 (hmembers ▸ List.mem_singleton_self t)).1
      rw [admits]
      exact admitsAmong_iff.2 ⟨t, ht, h⟩
    · exact h
  | _ => exact h

end Target

/-! ## Structured data -/

namespace Structural

open Target

theorem forall_of_readItems {P : Value → Prop} {item : Data → Option Value}
    (hitem : ∀ d v, item d = some v → P v) {ds : List Data} {vs : List Value}
    (h : readItems item ds = some vs) : ∀ v ∈ vs, P v := by
  induction ds generalizing vs with
  | nil => cases h; exact List.forall_mem_nil _
  | cons d ds ih =>
    rw [readItems] at h
    split at h
    · next a as ha has =>
      cases h
      exact List.forall_mem_cons.2 ⟨hitem d a ha, ih has⟩
    · cases h

theorem forall_of_readFields {P Q : Value → Prop} {key value : Data → Option Value}
    (hkey : ∀ d v, key d = some v → P v) (hvalue : ∀ d v, value d = some v → Q v)
    {fields : List (String × Data)} {entries : List (Value × Value)}
    (h : readFields key value fields = some entries) : ∀ e ∈ entries, P e.1 ∧ Q e.2 := by
  induction fields generalizing entries with
  | nil => cases h; exact List.forall_mem_nil _
  | cons f fields ih =>
    rw [readFields] at h
    split at h
    · next k a as hk ha has =>
      cases h
      exact List.forall_mem_cons.2 ⟨⟨hkey _ k hk, hvalue _ a ha⟩, ih has⟩
    · cases h

theorem mem_of_mem_distinct {same : Value → Value → Bool} {vs : List Value} {v : Value}
    (h : v ∈ distinct same vs) : v ∈ vs := by
  have hfold : ∀ (vs seen : List Value),
      v ∈ vs.foldl (fun seen v => if seen.any (same v) then seen else seen ++ [v]) seen →
        v ∈ seen ∨ v ∈ vs := by
    intro vs
    induction vs with
    | nil => exact fun seen h => .inl h
    | cons u vs ih =>
      intro seen hv
      rcases ih _ hv with hseen | hrest
      · dsimp only at hseen
        split at hseen
        · exact .inl hseen
        · rcases List.mem_append.1 hseen with hold | hnew
          · exact .inl hold
          · exact .inr (List.mem_singleton.1 hnew ▸ List.mem_cons_self)
      · exact .inr (List.mem_cons_of_mem u hrest)
  exact (hfold vs [] h).resolve_left List.not_mem_nil

theorem admits_of_isExact {t : Target} {d : Data} (h : isExact t d = true) :
    t.admits (.ofData d) = true := by
  cases t <;> cases d <;> cases h <;> rw [Value.ofData, admits]

/-! ## Records -/

theorem exists_of_toOption_map {α : Type} {f : α → Value} {c : Checked α} {v : Value}
    (h : (c.map f).toOption = some v) : ∃ a, c = .ok a ∧ v = f a := by
  cases c with
  | ok a => exact ⟨a, rfl, (Option.some.inj h).symm⟩
  | wrong => cases h

theorem exists_of_along {α β : Type} {f : Checked (α → β)} {a : Checked α} {b : β}
    (h : f.along a = .ok b) : ∃ g x, f = .ok g ∧ b = g x := by
  cases f <;> cases a <;> cases h
  exact ⟨_, _, rfl, rfl⟩

theorem exists_of_map {α β : Type} {f : α → β} {c : Checked α} {b : β} (h : c.map f = .ok b) :
    ∃ a, b = f a := by
  cases c <;> cases h
  exact ⟨_, rfl⟩

theorem eq_of_closed {α : Type} {known : List String} {fields : List (String × Data)}
    {r : Checked α} {a : α} (h : Record.closed known fields r = .ok a) : r = .ok a := by
  unfold Record.closed at h
  cases r with
  | ok b =>
    dsimp only at h
    split at h
    · exact h
    · cases h
  | wrong => cases h

/-- A brush that is read is of its kind. -/
theorem includes_of_brush {k : BrushKind} {fields : List (String × Data)} {b : Brush}
    (h : Record.brush k fields = .ok b) : k.includes b.kind = true := by
  cases k with
  | any => rfl
  | solid =>
    obtain ⟨g, c, hg, rfl⟩ := exists_of_along (eq_of_closed h)
    obtain ⟨o, rfl⟩ := exists_of_map hg
    rfl
  | linear =>
    obtain ⟨g, _, hg, rfl⟩ := exists_of_along (eq_of_closed h)
    obtain ⟨g', _, hg', rfl⟩ := exists_of_along hg
    obtain ⟨g'', _, hg'', rfl⟩ := exists_of_along hg'
    obtain ⟨o, rfl⟩ := exists_of_map hg''
    rfl
  | radial =>
    obtain ⟨g, _, hg, rfl⟩ := exists_of_along (eq_of_closed h)
    obtain ⟨g', _, hg', rfl⟩ := exists_of_along hg
    obtain ⟨g'', _, hg'', rfl⟩ := exists_of_along hg'
    obtain ⟨o, rfl⟩ := exists_of_map hg''
    rfl

/-- A record that is read is of its kind. -/
theorem admits_record {k : RecordKind} {fields : List (String × Data)} {v : Value}
    (h : (Record.read k fields).toOption = some v) : (Target.record k).admits v = true := by
  cases k with
  | brush k =>
    obtain ⟨b, hb, rfl⟩ := exists_of_toOption_map h
    rw [admits]
    exact includes_of_brush hb
  | _ =>
    obtain ⟨a, -, rfl⟩ := exists_of_toOption_map h
    rw [admits]

/-! ## Types -/

/-- Values that are made in one way belong to a type if all values made in this way do. -/
theorem admits_of_map {α : Type} {t : Target} {f : α → Value} {a? : Option α} {v : Value}
    (hf : ∀ a, t.admits (f a) = true) (h : a?.map f = some v) : t.admits v = true := by
  obtain ⟨a, -, rfl⟩ := Option.map_eq_some_iff.1 h
  exact hf a

theorem admits_decimal {d : Data} {v : Value} (h : decimal? d = some v) :
    Target.decimal.admits v = true := by
  cases d with
  | integer n => cases h; rw [admits]
  | number x => exact admits_of_map (fun _ => by rw [admits]) h
  | text s => exact admits_of_map (fun _ => by rw [admits]) h
  | _ => cases h

theorem contains_names_of_mem {e : Enumeration} {x : String × MemberValue}
    (h : x ∈ e.members) : e.names.contains x.1 = true :=
  List.contains_iff_mem.2 (List.mem_map_of_mem h)

theorem contains_names_of_find {e : Enumeration} {p : String × MemberValue → Bool} {m : String}
    (h : (e.members.find? p).map (·.1) = some m) : e.names.contains m = true := by
  obtain ⟨x, hx, rfl⟩ := Option.map_eq_some_iff.1 h
  exact contains_names_of_mem (List.mem_of_find?_eq_some hx)

theorem admits_enumeration {e : Enumeration} {d : Data} {v : Value}
    (h : read (.enumeration e) d = some v) : (enumeration e).admits v = true := by
  have hmember : ∀ {m}, e.names.contains m = true →
      (enumeration e).admits (.member e.name m) = true := by
    intro m hm
    show (decide (e.name = e.name) && e.names.contains m) = true
    rw [hm, decide_eq_true rfl, Bool.and_self]
  cases d with
  | text s =>
    obtain ⟨m, hm, rfl⟩ := Option.map_eq_some_iff.1 h
    exact hmember (contains_names_of_find hm)
  | integer n =>
    obtain ⟨m, hm, rfl⟩ := Option.map_eq_some_iff.1 h
    exact hmember (contains_names_of_find hm)
  | _ => cases h

theorem admits_choice {options : List String} {d : Data} {v : Value}
    (h : read (.choice options) d = some v) : (choice options).admits v = true := by
  cases d with
  | text s =>
    change (if options.contains s then some (Value.text s) else none) = some v at h
    split at h
    · next hs =>
      cases h
      exact hs
    · cases h
  | _ => cases h

section Parts

variable {d : Data} {v : Value}

theorem admits_list {item : Target} (hitem : ∀ d v, read item d = some v → item.admits v = true)
    (h : read (.list item) d = some v) : (list item).admits v = true := by
  cases d with
  | list ds =>
    obtain ⟨vs, hvs, rfl⟩ := Option.map_eq_some_iff.1 h
    show (vs.all fun v => item.admits v) = true
    exact List.all_eq_true.2 (forall_of_readItems hitem hvs)
  | _ => cases h

/-- Equal items are left out of a set, which adds none. -/
theorem admits_set {item : Target} (hitem : ∀ d v, read item d = some v → item.admits v = true)
    (h : read (.set item) d = some v) : (set item).admits v = true := by
  cases d with
  | list ds =>
    obtain ⟨vs, hvs, rfl⟩ := Option.map_eq_some_iff.1 h
    show ((distinct sameValue vs).all fun v => item.admits v) = true
    exact List.all_eq_true.2 fun v hv => forall_of_readItems hitem hvs v (mem_of_mem_distinct hv)
  | _ => cases h

theorem admits_dict {key value : Target}
    (hkey : ∀ d v, read key d = some v → key.admits v = true)
    (hvalue : ∀ d v, read value d = some v → value.admits v = true)
    (h : read (.dict key value) d = some v) : (dict key value).admits v = true := by
  cases d with
  | object fields =>
    obtain ⟨entries, hentries, rfl⟩ := Option.map_eq_some_iff.1 h
    show (entries.all fun e => key.admits e.1 && value.admits e.2) = true
    refine List.all_eq_true.2 fun e he => ?_
    rw [Bool.and_eq_true]
    exact forall_of_readFields hkey hvalue hentries e he
  | _ => cases h

theorem admits_tuple {items : List Target}
    (hitems : ∀ ds vs, readTuple items ds = some vs → admitsEach items vs = true)
    (h : read (.tuple items) d = some v) : (tuple items).admits v = true := by
  cases d with
  | list ds =>
    obtain ⟨vs, hvs, rfl⟩ := Option.map_eq_some_iff.1 h
    exact hitems ds vs hvs
  | _ => cases h

/-- Data that is a value of a member already is left as it is, whichever member stands first. -/
theorem admits_union {members : List Target}
    (hfirst : readFirst members d = some v → admitsAmong members v = true)
    (h : read (.union members) d = some v) : (union members).admits v = true := by
  change (if members.any fun t => isExact t d then some (.ofData d) else readFirst members d) =
    some v at h
  show admitsAmong members v = true
  split at h
  · next hexact =>
    obtain ⟨t, ht, hexact⟩ := List.any_eq_true.1 hexact
    cases h
    exact admitsAmong_iff.2 ⟨t, ht, admits_of_isExact hexact⟩
  · exact hfirst h

end Parts

mutual

/-- **Structured data** that is taken for a value of a type is one. -/
theorem admits_read : ∀ (t : Target) {d : Data} {v : Value}, read t d = some v →
    t.admits v = true
  | .list item, _, _, h => admits_list (fun _ _ => admits_read item) h
  | .set item, _, _, h => admits_set (fun _ _ => admits_read item) h
  | .dict key value, _, _, h =>
    admits_dict (fun _ _ => admits_read key) (fun _ _ => admits_read value) h
  | .tuple items, _, _, h => admits_tuple (fun _ _ => admitsEach_readTuple items) h
  | .union members, _, _, h => admits_union (admitsAmong_readFirst members) h
  | .annotated base, _, _, h => by
    rw [read] at h
    rw [admits]
    exact admits_read base h
  | .enumeration _, _, _, h => admits_enumeration h
  | .choice _, _, _, h => admits_choice h
  | .record _, d, _, h => by
    cases d with
    | object fields => exact admits_record h
    | _ => cases h
  | .text, d, _, h => by
    cases d with
    | text s => cases h; rw [admits]
    | _ => cases h
  | .bytes, d, _, h => by
    cases d with
    | text s => cases h; rw [admits]
    | _ => cases h
  | .path, d, _, h => by
    cases d with
    | text s => cases h; rw [admits]
    | _ => cases h
  | .uuid, d, _, h => by
    cases d with
    | text s => exact admits_of_map (fun _ => by rw [admits]) h
    | _ => cases h
  | .nothing, d, _, h => by
    cases d with
    | null => cases h; rw [admits]
    | _ => cases h
  | .any, _, _, _ => by rw [admits]
  | .object, _, _, _ => by rw [admits]
  | .decimal, _, _, h => admits_decimal h
  | .integer, _, _, h => admits_of_map (fun _ => by rw [admits]) h
  | .number, _, _, h => admits_of_map (fun _ => by rw [admits]) h
  | .truth, _, _, h => admits_of_map (fun _ => by rw [admits]) h
  | .date, _, _, h => admits_of_map (fun _ => by rw [admits]) h
  | .time, _, _, h => admits_of_map (fun _ => by rw [admits]) h
  | .dateTime, _, _, h => admits_of_map (fun _ => by rw [admits]) h
  | .duration, _, _, h => admits_of_map (fun _ => by rw [admits]) h
  | .complex, d, _, h => by cases d <;> cases h
  | .kind .., d, _, h => by cases d <;> cases h
  | .undefined _, d, _, h => by cases d <;> cases h

/-- A value of the first type that data can be meant for belongs to one of the types. -/
theorem admitsAmong_readFirst : ∀ (ts : List Target) {d : Data} {v : Value},
    readFirst ts d = some v → admitsAmong ts v = true
  | [], _, _, h => by cases h
  | t :: ts, d, v, h => by
    rw [readFirst, Option.or_eq_some_iff] at h
    rw [admitsAmong, Bool.or_eq_true]
    rcases h with h | ⟨-, h⟩
    · exact .inl (admits_read t h)
    · exact .inr (admitsAmong_readFirst ts h)

/-- The items of a tuple belong to its types. -/
theorem admitsEach_readTuple : ∀ (ts : List Target) {ds : List Data} {vs : List Value},
    readTuple ts ds = some vs → admitsEach ts vs = true
  | [], ds, vs, h => by
    cases ds with
    | nil => cases h; rw [admitsEach]
    | cons => cases h
  | t :: ts, ds, vs, h => by
    cases ds with
    | nil => cases h
    | cons d ds =>
      rw [readTuple] at h
      split at h
      · next a as ha has =>
        cases h
        rw [admitsEach, admits_read t ha, admitsEach_readTuple ts has]
        rfl
      · cases h

end

theorem admits_convert {value : String} {t : Target} {v : Value}
    (h : Structural.convert value t = .ok v) : t.admits v = true := by
  rw [Structural.convert] at h
  split at h
  · next hread =>
    cases h
    exact admits_read t hread
  · split at h
    · next hjson =>
      cases h
      obtain ⟨d, -, hread⟩ := Option.bind_eq_some_iff.1 hjson
      exact admits_read t hread
    · cases h

end Structural

/-! ## The converters of the library -/

namespace Convert

open Target

theorem contains_names_of_member? {e : Enumeration} {value m : String}
    (h : member? e value = some m) : e.names.contains m = true := by
  unfold member? at h
  dsimp only at h
  split at h
  · next x hx =>
    cases h
    rcases Option.or_eq_some_iff.1 hx with hname | ⟨-, htext⟩
    · exact Structural.contains_names_of_mem (List.mem_of_find?_eq_some hname)
    · exact Structural.contains_names_of_mem (List.mem_of_find?_eq_some htext)
  · obtain ⟨n, -, hm⟩ := Option.bind_eq_some_iff.1 h
    exact Structural.contains_names_of_find hm

theorem admits_member {e : Enumeration} {value : String} {v : Value}
    (h : member e value = .ok v) : (Target.enumeration e).admits v = true := by
  rw [member] at h
  split at h
  · next m hm =>
    cases h
    rw [admits, contains_names_of_member? hm]
    simp
  · cases h

theorem admits_fontWeight {value : String} {v : Value} (h : fontWeight value = .ok v) :
    (Target.enumeration .fontWeight).admits v = true := by
  have haliases : ∀ a ∈ weightAliases, Enumeration.fontWeight.names.contains a.2 = true := by decide
  rw [fontWeight] at h
  split at h
  · next m hm =>
    cases h
    rw [admits, haliases _ (FileStore.mem_of_lookup_eq_some hm)]
    simp
  · exact admits_member h

/-- Values that are made in one way belong to a type if all values made in this way do. -/
theorem admits_of_map {α : Type} {t : Target} {f : α → Value} {r : Except Refusal α} {v : Value}
    (hf : ∀ a, r = .ok a → t.admits (f a) = true) (h : r.map f = .ok v) : t.admits v = true := by
  cases r with
  | error e => cases h
  | ok a =>
    cases h
    exact hf a rfl

theorem admits_primitive {value : String} {t : Target} {v : Value}
    (h : primitive value t = .ok v) : t.admits v = true := by
  cases t with
  | text =>
    cases h
    rw [admits]
  | truth =>
    rw [primitive] at h
    exact admits_of_map (fun _ _ => by rw [admits]) h
  | integer =>
    rw [primitive] at h
    exact admits_of_map (fun _ _ => by rw [admits]) h
  | number =>
    rw [primitive] at h
    exact admits_of_map (fun _ _ => by rw [admits]) h
  | decimal =>
    rw [primitive] at h
    exact admits_of_map (fun _ _ => by rw [admits]) h
  | complex =>
    rw [primitive] at h
    exact admits_of_map (fun _ _ => by rw [admits]) h
  | _ => simp [primitive, wrong] at h

theorem includes_of_brush {k : BrushKind} {value : String} {b : Brush}
    (h : brush k value = .ok b) : k.includes b.kind = true := by
  rw [brush] at h
  cases hany : anyBrush value with
  | error e => rw [hany] at h; cases h
  | ok b' =>
    rw [hany] at h
    change (if k.includes b'.kind then _ else _) = _ at h
    split at h
    · next hkind =>
      cases h
      exact hkind
    · cases h

end Convert

/-- **A converter of the library** gives values of the types that it claims. -/
theorem Converter.admits_convert {c : Converter} (hc : c ∈ standard.members) {value : String}
    {t : Target} (hclaims : c.claims t = true) {v : Value} (h : c.convert value t = .ok v) :
    t.admits v = true := by
  simp only [standard, List.mem_cons, List.not_mem_nil, or_false] at hc
  rcases hc with rfl | rfl | rfl | rfl | rfl | rfl | rfl | rfl
  · cases t with
    | record k =>
      cases k with
      | brush k =>
        refine Convert.admits_of_map (fun b hb => ?_) h
        rw [Target.admits]
        exact Convert.includes_of_brush hb
      | _ => cases hclaims
    | _ => cases hclaims
  · obtain rfl : t = .record .color := by simpa [toColor, builtIn] using hclaims
    exact Convert.admits_of_map (fun _ _ => by rw [Target.admits]) h
  · obtain rfl : t = .enumeration .fontWeight := by simpa [toFontWeight, builtIn] using hclaims
    exact Convert.admits_fontWeight h
  · obtain rfl : t = .record .gridLength := by simpa [toGridLength, builtIn] using hclaims
    exact Convert.admits_of_map (fun _ _ => by rw [Target.admits]) h
  · obtain rfl : t = .record .cornerRadius := by simpa [toCornerRadius, builtIn] using hclaims
    exact Convert.admits_of_map (fun _ _ => by rw [Target.admits]) h
  · obtain rfl : t = .record .thickness := by simpa [toThickness, builtIn] using hclaims
    exact Convert.admits_of_map (fun _ _ => by rw [Target.admits]) h
  · cases t with
    | enumeration e => exact Convert.admits_member h
    | _ => cases hclaims
  · exact Convert.admits_primitive h

/-! ## Conversion -/

namespace Conversion

/-- A text that is not empty is converted to a value of the type. -/
theorem admits_apply {value : String} {t : Target} {v : Value}
    (h : apply (find? Converter.standard t) value t = .ok v) : t.admits v = true := by
  cases hfind : find? Converter.standard t with
  | some c =>
    rw [hfind, apply] at h
    have hmem : c ∈ Converter.standard.members :=
      List.mem_of_find?_eq_some (p := fun c : Converter => c.claims t) hfind
    have hclaims : c.claims t = true := List.find?_some (p := fun c : Converter => c.claims t) hfind
    cases hconvert : c.convert value t with
    | error e => rw [hconvert] at h; cases h
    | ok v' =>
      rw [hconvert] at h
      cases h
      exact Converter.admits_convert hmem hclaims hconvert
  | none =>
    rw [hfind, apply] at h
    split at h
    · cases h
    · split at h
      · cases h
      · exact Structural.admits_convert h

/-- The zero of a type is a value of it, unless it is the absence of a value. -/
theorem admits_zero {t : Target} {v : Value} (h : t.zero = .ok v) :
    t.admits v = true ∨ v = .none := by
  rw [Target.zero] at h
  split at h
  rotate_left
  · cases h
  cases t with
  | text | integer | number | truth | decimal | complex | object | bytes | time | duration | path =>
    cases h
    exact .inl (by rw [Target.admits])
  | enumeration e =>
    rw [Target.zeroOfKey] at h
    split at h
    · cases h
      exact .inr rfl
    · next m _ hmembers =>
      cases h
      have hname := Structural.contains_names_of_mem (e := e) (hmembers ▸ List.mem_cons_self)
      exact .inl (by rw [Target.admits, hname]; simp)
  | record k =>
    cases h
    cases hread : (Record.read k []).toOption with
    | none => exact .inr rfl
    | some v => exact .inl (Structural.admits_record hread)
  | kind name construction =>
    cases construction with
    | object =>
      cases h
      exact .inl (by rw [Target.admits]; simp)
    | incomplete =>
      cases h
      exact .inr rfl
    | fails message => cases h
  | _ =>
    cases h
    exact .inr rfl

/-- **A raw value** is converted to a value of the type; the empty text may be converted to the
absence of a value, as the zero of a type that has no other. -/
theorem admits_convert {value : String} {t : Target} {v : Value}
    (h : convert Converter.standard (some value) t = .ok v) :
    t.admits v = true ∨ value = "" ∧ v = .none ∧ t.unwrapped.zero = .ok .none := by
  rw [convert, convertWith] at h
  cases hempty : value.isEmpty with
  | true =>
    rw [hempty, if_pos rfl] at h
    rcases admits_zero h with hadmits | rfl
    · exact .inl (Target.admits_of_unwrapped hadmits)
    · exact .inr ⟨String.isEmpty_iff.1 hempty, rfl, h⟩
  | false =>
    rw [hempty, if_neg Bool.false_ne_true] at h
    refine .inl (Target.admits_of_unwrapped ?_)
    split at h
    · next hany =>
      rcases hany with hany | hany <;> (rw [hany]; rw [Target.admits])
    · exact admits_apply h

end Conversion

/-! ## Declared properties -/

/-- Whether a type is a collection with texts for its items, keys or values. -/
def Target.collectsTexts : Target → Bool
  | .list item => item = .text
  | .set item => item = .text
  | .tuple items => items.contains .text
  | .dict key value => key = .text || value = .text
  | _ => false

/-- A raw text belongs to a type that accepts it as it is, other than a collection of texts. -/
theorem Target.admits_text {t : Target} {value : String} (h : t.acceptsText = true)
    (hcollects : t.unwrapped.collectsTexts = false) : t.admits (.text value) = true := by
  refine admits_of_unwrapped ?_
  rw [acceptsText] at h
  generalize t.unwrapped = t at h hcollects
  cases t with
  | text | any | object => rw [admits]
  | union members =>
    rw [admits]
    exact admitsAmong_iff.2 ⟨.text, List.contains_iff_mem.1 h, by rw [admits]⟩
  | list | set | tuple | dict => cases hcollects.symm.trans h
  | _ => cases h

theorem Setter.stores_assignDeclared {n : Node} {a : Accessor} {value : String}
    (hdone : (assignDeclared Converter.standard n a value).failure = none)
    (hcollects : a.target.collectsTexts = true →
      ∃ v, Conversion.convert Converter.standard (some value) a.type = .ok v) :
    ∃ v, (assignDeclared Converter.standard n a value).node = n.assign a.slot v ∧
      (a.type.admits v = true ∨ value = "" ∧ v = .none ∧ a.target.zero = .ok .none) := by
  rw [assignDeclared] at hdone ⊢
  split at hdone
  · next hplain =>
    rw [if_pos hplain]
    refine ⟨.text value, rfl, .inl (Target.admits_of_unwrapped ?_)⟩
    rw [← Accessor.target]
    rcases hplain with h | h | h <;> rw [h, Target.admits]
  · next hplain =>
    rw [if_neg hplain]
    cases hconvert : Conversion.convert Converter.standard (some value) a.type with
    | ok v => exact ⟨v, rfl, Conversion.admits_convert hconvert⟩
    | error f =>
      rw [hconvert] at hdone hcollects
      have hplainTexts : a.target.collectsTexts = false :=
        eq_false_of_ne_true fun h => by obtain ⟨_, hv⟩ := hcollects h; cases hv
      cases f with
      | failure e =>
        dsimp only at hdone ⊢
        split at hdone
        · next haccepts =>
          rw [if_pos haccepts]
          exact ⟨.text value, rfl, .inl (Target.admits_text haccepts hplainTexts)⟩
        · cases hdone
      | _ => cases hdone

/-- **What is stored belongs to the declared type**, whatever the class, the node, the property and
the raw value: if the setter of declared properties does not fail with the converters of the library,
then the slot of the property holds a value of its type. There is one exception, for the empty text:
a type that has no zero of its own has the absence of a value stored for it. So a raw text is stored
only where the type has texts, and the absence of a value only where the type has it, or for the
empty text. Nothing is said about a collection of texts whose raw value cannot be converted. -/
theorem admits_declared (n : Node) (name value : String) (a : Accessor)
    (ha : n.cls.accessor? name = some a)
    (hdone : (Setter.declared.apply Converter.standard n name value).failure = none)
    (hcollects : a.target.collectsTexts = true →
      ∃ v, Conversion.convert Converter.standard (some value) a.type = .ok v) :
    ∃ v, (Setter.declared.apply Converter.standard n name value).node.slot? a.slot = some v ∧
      (a.type.admits v = true ∨ value = "" ∧ v = .none ∧ a.target.zero = .ok .none) := by
  have hassign : Setter.declared.apply Converter.standard n name value =
      Setter.assignDeclared Converter.standard n a value := by
    simp only [Setter.declared, Setter.builtIn, ha]
  rw [hassign] at hdone ⊢
  obtain ⟨v, hnode, hstores⟩ := Setter.stores_assignDeclared hdone hcollects
  exact ⟨v, by rw [hnode, Node.slot?_assign_self], hstores⟩

/-- A control with a property that takes one of two texts. -/
def dial : Node := .ofClass 1 (.control "Dial" [NodeClass.declare "mode" (.choice ["low", "high"])])

/-- The property of the dial. -/
def dialMode : Accessor := ⟨"Mode", "mode", .choice ["low", "high"]⟩

/-- One of the texts is stored as a value of the property. -/
theorem admits_declared_dial :
    dial.cls.accessor? "Mode" = some dialMode ∧
      (Setter.declared.apply Converter.standard dial "Mode" "low").failure = none ∧
      ∃ v, (Setter.declared.apply Converter.standard dial "Mode" "low").node.slot? "mode" = some v ∧
        dialMode.type.admits v = true := by
  have ha : dial.cls.accessor? "Mode" = some dialMode := by decide +kernel
  have hdone : (Setter.declared.apply Converter.standard dial "Mode" "low").failure = none :=
    Option.isNone_iff_eq_none.1 (by decide +kernel)
  obtain ⟨v, hv, hadmits | ⟨hempty, -⟩⟩ :=
    admits_declared dial "Mode" "low" dialMode ha hdone nofun
  · exact ⟨ha, hdone, v, hv, hadmits⟩
  · exact absurd hempty (by decide)

/-- The empty text is no text of the dial, and is not refused: the property is left without a value,
which does not belong to its type either. -/
theorem not_admits_declared_dial :
    ¬ ∀ (n : Node) (name value : String) (a : Accessor), n.cls.accessor? name = some a →
      (Setter.declared.apply Converter.standard n name value).failure = none →
      ∃ v, (Setter.declared.apply Converter.standard n name value).node.slot? a.slot = some v ∧
        a.type.admits v = true := by
  intro hall
  have ha : dial.cls.accessor? "Mode" = some dialMode := by decide +kernel
  have hassign : Setter.declared.apply Converter.standard dial "Mode" "" =
      .done (dial.assign "mode" .none) := by
    simp only [Setter.declared, Setter.builtIn, ha]
    rfl
  obtain ⟨v, hv, hadmits⟩ := hall dial "Mode" "" dialMode ha (by rw [hassign]; rfl)
  rw [hassign] at hv
  cases (Node.slot?_assign_self dial "mode" .none).symm.trans hv
  cases hadmits

end LayoutTree
