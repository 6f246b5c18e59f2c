import LayoutTree.Proofs.Layout.Quoting

/-!
# Values without quotes

A value can be written without quotes, with a backslash before each character that would mean
something there (`guarded`). Such a value is part of one fragment whatever it holds, and no equals
sign in it is taken for the one after the name, so the properties of a line are read in the parts
that the line was put together from. One thing gets lost: fragments are trimmed before their escapes
are read, so a blank at the end of a value goes and its backslash stays (`worn`).

* `readsBack_guardedLine_iff`: the properties of a line read back exactly if no value ends in a
  blank.
-/

namespace LayoutTree.Layout

open LayoutTree.Text

/-! ## Writing -/

/-- Whether a character means something in a value without quotes. -/
def isSpecial (c : Char) : Bool :=
  isBlank c || c == '\\' || c == '"' || c == ';' || c == '='

/-- A character of a value without quotes. -/
def guardChar (c : Char) : List Char :=
  if isSpecial c then ['\\', c] else [c]

/-- A value without quotes: a backslash stands before each character that means something. -/
def guarded (s : List Char) : List Char :=
  s.flatMap guardChar

/-- A property with its value without quotes. -/
def guardedAssignment (name value : List Char) : List Char :=
  name ++ '=' :: guarded value

/-- Properties with their values without quotes, between semicolons. -/
def guardedLine (ps : List (String × String)) : List Char :=
  [';'].intercalate (ps.map fun p => guardedAssignment p.1.toList p.2.toList)

/-- Whether a value ends in a blank. -/
def endsInBlank (s : List Char) : Bool := s.getLast?.any isBlank

/-- What is left of a value without quotes once its fragment has been trimmed. -/
def trimmedGuarded (s : List Char) : List Char :=
  if endsInBlank s then guarded s.dropLast ++ ['\\'] else guarded s

/-- A value without quotes as it is read: of a blank at the end the backslash stays. -/
def worn (s : List Char) : List Char :=
  if endsInBlank s then s.dropLast ++ ['\\'] else s

theorem guarded_append (s t : List Char) : guarded (s ++ t) = guarded s ++ guarded t :=
  List.flatMap_append

theorem endsInBlank_append_singleton (s : List Char) (c : Char) :
    endsInBlank (s ++ [c]) = isBlank c := by
  simp [endsInBlank]

/-- A value is read as it was written exactly if it does not end in a blank. -/
theorem worn_eq_self_iff {s : List Char} : worn s = s ↔ endsInBlank s = false := by
  rw [worn]
  rcases List.eq_nil_or_concat s with rfl | ⟨s, c, rfl⟩
  · decide
  · rw [List.concat_eq_append, endsInBlank_append_singleton]
    cases hc : isBlank c with
    | true =>
      have hne : '\\' ≠ c := by
        rintro rfl
        exact absurd hc (by decide)
      simp [hne]
    | false => simp

/-! ## Trimming -/

theorem trim_append_blank {s : List Char} (h : IsTight s) {c : Char} (hc : isBlank c = true) :
    trim (s ++ [c]) = s := by
  obtain ⟨d, hd, hblank⟩ := h.head
  obtain ⟨r, rfl⟩ := List.head?_eq_some_iff.1 hd
  have htrim := h.trim_eq
  rw [trim, trimStart_cons_of_not_blank _ hblank] at htrim
  rw [trim, List.cons_append, trimStart_cons_of_not_blank _ hblank, trimEnd, ← List.cons_append,
    List.reverse_append, List.reverse_singleton, List.singleton_append,
    List.dropWhile_cons_of_pos hc, ← trimEnd, htrim]

theorem isBlank_of_isSpecial {c : Char} (h : isSpecial c = false) : isBlank c = false := by
  simp only [isSpecial, Bool.or_eq_false_iff] at h
  exact h.1.1.1.1

/-- A value without quotes starts neither with a blank nor with a quote. -/
theorem head_guarded {s : List Char} : ∀ c ∈ (guarded s).head?, isBlank c = false ∧ c ≠ '"' := by
  cases s with
  | nil => simp [guarded]
  | cons d s =>
    rw [guarded, List.flatMap_cons, guardChar]
    split
    · simp only [List.cons_append, List.head?_cons, Option.mem_some_iff, forall_eq']
      decide
    · next h =>
      have hspecial := eq_false_of_ne_true h
      simp only [List.cons_append, List.head?_cons, Option.mem_some_iff, forall_eq']
      refine ⟨isBlank_of_isSpecial hspecial, ?_⟩
      rintro rfl
      cases hspecial

theorem head_trimmedGuarded {s : List Char} :
    ∀ c ∈ (trimmedGuarded s).head?, isBlank c = false ∧ c ≠ '"' := by
  rw [trimmedGuarded]
  split
  · rw [List.head?_append]
    intro c hc
    cases hhead : (guarded s.dropLast).head? with
    | none =>
      obtain rfl : '\\' = c := by simpa [hhead] using hc
      decide
    | some d =>
      obtain rfl : d = c := by simpa [hhead] using hc
      exact head_guarded d hhead
  · exact head_guarded

theorem last_trimmedGuarded {s : List Char} :
    ∀ c ∈ (trimmedGuarded s).getLast?, isBlank c = false := by
  rw [trimmedGuarded]
  rcases List.eq_nil_or_concat s with rfl | ⟨s, d, rfl⟩
  · simp [endsInBlank, guarded]
  · rw [List.concat_eq_append, endsInBlank_append_singleton]
    split
    · simp only [List.getLast?_concat, Option.mem_some_iff, forall_eq']
      decide
    · next hd =>
      have hlast : (guarded (s ++ [d])).getLast? = some d := by
        rw [guarded_append, guarded, guarded, List.flatMap_singleton, guardChar]
        split <;> simp
      simp only [hlast, Option.mem_some_iff, forall_eq']
      exact eq_false_of_ne_true hd

/-- A value that was trimmed with its fragment has nothing more to trim. -/
theorem trim_trimmedGuarded (s : List Char) : trim (trimmedGuarded s) = trimmedGuarded s := by
  by_cases hnil : trimmedGuarded s = []
  · rw [hnil]
    rfl
  · have hhead := List.head?_eq_some_head hnil
    have hlast := List.getLast?_eq_some_getLast hnil
    exact IsTight.trim_eq ⟨⟨_, hhead, (head_trimmedGuarded _ hhead).1⟩,
      ⟨_, hlast, last_trimmedGuarded _ hlast⟩⟩

theorem isTight_append_trimmedGuarded {name : List Char} (h : IsName name) (s : List Char) :
    IsTight (name ++ '=' :: trimmedGuarded s) where
  head := by
    obtain ⟨c, hc, hblank⟩ := (isTight_of_isName h).head
    exact ⟨c, by simp [List.head?_append, hc], hblank⟩
  last := by
    by_cases hnil : trimmedGuarded s = []
    · rw [hnil]
      exact ⟨'=', by simp, by decide⟩
    · have hlast := List.getLast?_eq_some_getLast hnil
      exact ⟨_, by simp [List.getLast?_append, List.getLast?_cons, hlast],
        last_trimmedGuarded _ hlast⟩

/-- **Trimming takes a blank off the end**, and leaves the backslash that stood before it. -/
theorem trim_guardedAssignment {name : List Char} (h : IsName name) (value : List Char) :
    trim (guardedAssignment name value) = name ++ '=' :: trimmedGuarded value := by
  have htight := isTight_append_trimmedGuarded h value
  rw [guardedAssignment]
  rw [trimmedGuarded] at htight ⊢
  split at htight
  · next hblank =>
    rw [if_pos hblank]
    rcases List.eq_nil_or_concat value with rfl | ⟨s, c, rfl⟩
    · exact absurd hblank (by decide)
    · rw [List.concat_eq_append, endsInBlank_append_singleton] at hblank
      rw [List.concat_eq_append, List.dropLast_concat] at htight ⊢
      have hlast : guarded [c] = ['\\', c] := by
        simp [guarded, guardChar, isSpecial, hblank]
      rw [← trim_append_blank htight hblank, guarded_append, hlast]
      simp
  · next hblank => rw [if_neg hblank, htight.trim_eq]

/-! ## Reading -/

theorem solid_guardChar (c : Char) : Solid (· == ';') (guardChar c) := by
  rw [guardChar]
  split
  · intro current rest
    simp [fragmentsFrom]
  · next h =>
    refine solid_of_forall fun d hd => ?_
    obtain rfl := List.mem_singleton.1 hd
    simp only [isSpecial, Bool.or_eq_true, beq_iff_eq, not_or] at h
    exact ⟨h.1.1.1.2, h.1.1.2, by simpa using h.1.2⟩

/-- A value without quotes is part of one fragment, whatever it holds. -/
theorem solid_guarded (s : List Char) : Solid (· == ';') (guarded s) := by
  induction s with
  | nil => exact fun _ _ => rfl
  | cons c s ih =>
    rw [guarded, List.flatMap_cons, ← guarded]
    exact (solid_guardChar c).append ih

theorem solid_guardedAssignment {name : List Char} (h : ∀ c ∈ name, isNameChar c = true)
    (value : List Char) : Solid (· == ';') (guardedAssignment name value) := by
  have heq : Solid (· == ';') ['='] := solid_of_forall (by simp)
  exact (solid_of_isNameChar h).append (heq.append (solid_guarded value))

theorem unescape_guarded_append (s t : List Char) :
    unescape (guarded s ++ t) = s ++ unescape t := by
  induction s with
  | nil => rfl
  | cons c s ih =>
    rw [guarded, List.flatMap_cons, ← guarded, List.append_assoc, guardChar]
    split
    · next h =>
      have hescape : escapeValue c = c := by
        -- None of the characters with an escape of their own is written with a backslash.
        have hplain : ∀ d ∈ ['n', 't', 'r'], c ≠ d := by
          rintro d hd rfl
          have hnone : ∀ d ∈ ['n', 't', 'r'], isSpecial d = false := by
            simp [isSpecial, isBlank]
          exact absurd h (ne_true_of_eq_false (hnone c hd))
        rw [escapeValue, if_neg (hplain 'n' (by decide)), if_neg (hplain 't' (by decide)),
          if_neg (hplain 'r' (by decide))]
      rw [List.cons_append, List.singleton_append, unescape, hescape, ih, List.cons_append]
    · next h =>
      have hne : c ≠ '\\' := by
        rintro rfl
        exact h (by decide)
      rw [List.singleton_append, unescape_cons_of_ne hne, ih, List.cons_append]

theorem unescape_trimmedGuarded (s : List Char) : unescape (trimmedGuarded s) = worn s := by
  rw [trimmedGuarded, worn]
  split
  · rw [unescape_guarded_append]
    rfl
  · have hread := unescape_guarded_append s []
    rwa [List.append_nil, unescape, List.append_nil] at hread

/-- The fragment of a property with its value without quotes. -/
theorem readProperty_append_trimmedGuarded {name : List Char} (h : IsName name) (s : List Char) :
    readProperty (name ++ '=' :: trimmedGuarded s) =
      ⟨String.ofList name, some (String.ofList (worn s))⟩ := by
  have hfind : findAssignment (name ++ '=' :: trimmedGuarded s) = some name.length := by
    rw [findAssignment, assignmentFrom_of_isNameChar h.chars, Nat.zero_add]
    rfl
  have htake : (name ++ '=' :: trimmedGuarded s).take name.length = name := List.take_left
  have hdrop : (name ++ '=' :: trimmedGuarded s).drop (name.length + 1) = trimmedGuarded s := by
    rw [← List.drop_drop, List.drop_left]
    rfl
  have hquotes : stripQuotes (trimmedGuarded s) = trimmedGuarded s :=
    stripQuotes_of_head_ne fun c hc => (head_trimmedGuarded c hc).2
  simp only [readProperty, hfind, htake, hdrop, trim_of_isNameChar h.chars, trim_trimmedGuarded,
    hquotes, unescape_trimmedGuarded]

theorem intercalate_cons (p : List Char) (ps : List (List Char)) :
    [';'].intercalate (p :: ps) = p ++ ps.flatMap (';' :: ·) := by
  induction ps generalizing p with
  | nil => simp
  | cons q ps ih => simp [List.intercalate_cons_cons, ih, List.flatMap_cons]

/-- **A line of properties without quotes** is read in the parts that it was put together from, with
the values worn. -/
theorem map_readProperty_guardedLine {ps : List (String × String)}
    (h : ∀ p ∈ ps, IsName p.1.toList) :
    (splitFragments (· == ';') (guardedLine ps)).map readProperty =
      ps.map fun p => ⟨p.1, some (String.ofList (worn p.2.toList))⟩ := by
  have hsplit : splitFragments (· == ';') (guardedLine ps) =
      ps.map fun p => p.1.toList ++ '=' :: trimmedGuarded p.2.toList := by
    cases ps with
    | nil => rfl
    | cons p ps =>
      have hsolid : ∀ q ∈ p :: ps, Solid (· == ';') (guardedAssignment q.1.toList q.2.toList) :=
        fun q hq => solid_guardedAssignment (h q hq).chars _
      rw [guardedLine, List.map_cons, intercalate_cons,
        splitFragments_of_solid (hsolid p List.mem_cons_self)
          (List.forall_mem_map.2 fun q hq => hsolid q (List.mem_cons_of_mem _ hq)),
        ← List.map_cons (f := fun q : String × String => guardedAssignment q.1.toList q.2.toList),
        List.map_map, List.filter_eq_self.2]
      · exact List.map_congr_left fun q hq => trim_guardedAssignment (h q hq) _
      · rw [List.forall_mem_map]
        intro q hq
        rw [Function.comp_apply, trim_guardedAssignment (h q hq)]
        simp
  rw [hsplit, List.map_map]
  refine List.map_congr_left fun p hp => ?_
  rw [Function.comp_apply, readProperty_append_trimmedGuarded (h p hp), String.ofList_toList]

/-- **A line of properties without quotes reads back** exactly if no value ends in a blank. A
backslash protects every other character, wherever it stands. -/
theorem readsBack_guardedLine_iff (ps : List (String × String))
    (h : ∀ p ∈ ps, IsName p.1.toList) :
    (splitFragments (· == ';') (guardedLine ps)).map readProperty =
        ps.map (fun p => ⟨p.1, some p.2⟩) ↔
      ∀ p ∈ ps, endsInBlank p.2.toList = false := by
  rw [map_readProperty_guardedLine h, List.map_inj_left]
  refine forall₂_congr fun p _ => ?_
  rw [← worn_eq_self_iff, Property.mk.injEq, Option.some.injEq, and_iff_right rfl,
    ← String.toList_inj, String.toList_ofList]

/-- Each character that means something stands at the start of a value, and each but a blank at the
end of one. -/
theorem readsBack_guardedLine_marks :
    let ps := [("a", "=;"), ("b", ";="), ("c", "\" x\t\""), ("d", "\\n\\"), ("e", " \"")]
    guardedLine ps =
        "a=\\=\\;;b=\\;\\=;c=\\\"\\ x\\\t\\\";d=\\\\n\\\\;e=\\ \\\"".toList ∧
      (splitFragments (· == ';') (guardedLine ps)).map readProperty =
        ps.map fun p => ⟨p.1, some p.2⟩ :=
  ⟨by decide +kernel, (readsBack_guardedLine_iff _ (by decide +kernel)).2 (by decide +kernel)⟩

/-- A value that ends in a blank does not read back. -/
theorem not_readsBack_guardedLine_finalBlank :
    let ps := [("Text", "x "), ("Name", "b")]
    guardedLine ps = "Text=x\\ ;Name=b".toList ∧
      (splitFragments (· == ';') (guardedLine ps)).map readProperty =
        [⟨"Text", some "x\\"⟩, ⟨"Name", some "b"⟩] ∧
      (splitFragments (· == ';') (guardedLine ps)).map readProperty ≠
        ps.map fun p => ⟨p.1, some p.2⟩ := by
  decide +kernel

end LayoutTree.Layout
