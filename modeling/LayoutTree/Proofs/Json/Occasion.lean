import LayoutTree.Json.Reader
import LayoutTree.Proofs.Text.Scan

/-!
# What makes a JSON text unreadable

Every failure of the JSON reader but one says what is not JSON about a text. The exception is an
integer with too many digits: the text holds those digits in a row (`longRun_of_readChars`). It is
read off the scanner of numbers, the only part that fails so, and carried through the reader of
documents, which starts each part where the one before it stops.
-/

namespace LayoutTree.Json

open LayoutTree.Number LayoutTree.Text

/-- A failure because of a long integer needs the run of digits, any other one nothing. -/
def occasion : Occasion Failure where
  holds e s :=
    match e.cause with
    | .longInteger digits => LongRun digits s
    | _ => True
  of_suffix {e _ _} h hst := by
    split
    · next hcause =>
      rw [hcause] at h
      exact LongRun.of_suffix h hst
    · trivial

theorem skipSpace_suffix (s : List Char) : skipSpace s <:+ s :=
  List.dropWhile_suffix isSpace

/-! ## Lexemes -/

theorem scans_scanUnicode (s : List Char) : Scans occasion Prod.snd s (scanUnicode s) := by
  rw [scanUnicode.eq_def]
  split
  · split
    · trivial
    · split
      · split
        · split
          · trivial
          · split
            · exact ⟨[_, _, _, _, '\\', 'u', _, _, _, _], rfl⟩
            · exact ⟨[_, _, _, _], rfl⟩
        · exact ⟨[_, _, _, _], rfl⟩
      · exact ⟨[_, _, _, _], rfl⟩
  · trivial

theorem scans_scanString (start : Nat) (acc s : List Char) :
    Scans occasion Prod.snd s (scanString start acc s) := by
  fun_induction scanString start acc s with
  | case1 => trivial
  | case2 => exact List.suffix_cons _ _
  | case3 acc r x t hescape _ ih =>
    have hunicode := scans_scanUnicode r
    rw [hescape] at hunicode
    exact ih.of_suffix (hunicode.trans ⟨['\\', 'u'], rfl⟩)
  | case4 acc r e hescape =>
    have hunicode := scans_scanUnicode r
    rw [hescape] at hunicode
    exact occasion.of_suffix hunicode ⟨['\\', 'u'], rfl⟩
  | case5 acc c r _ x _ ih => exact ih.of_suffix ⟨['\\', c], rfl⟩
  | case6 => trivial
  | case7 => trivial
  | case8 => trivial
  | case9 acc c r _ _ _ _ _ ih => exact ih.of_suffix (List.suffix_cons _ _)

theorem scanMinus_suffix (s : List Char) : (scanMinus s).2 <:+ s := by
  rw [scanMinus.eq_def]
  split
  · exact List.suffix_cons _ _
  · exact List.suffix_refl _

/-- A whole part is a run of digits in front of what is left. -/
theorem scanWhole?_eq_some {s ds rest : List Char} (h : scanWhole? s = some (ds, rest)) :
    s = ds ++ rest ∧ ∀ c ∈ ds, isDigitChar c = true := by
  rw [scanWhole?.eq_def] at h
  split at h
  · cases h
    exact ⟨rfl, List.forall_mem_singleton.2 rfl⟩
  · next c r =>
    split at h
    · next hc =>
      cases h
      refine ⟨by rw [List.cons_append, List.takeWhile_append_dropWhile], fun d hd => ?_⟩
      obtain rfl | hd := List.mem_cons.1 hd
      · have hdigit : '0' ≤ d := Char.le_trans (by decide) hc.1
        simp [isDigitChar, hdigit, hc.2]
      · exact List.all_eq_true.1 List.all_takeWhile d hd
    · cases h
  · cases h

theorem scanSign_suffix (s : List Char) : (scanSign s).2 <:+ s := by
  rw [scanSign.eq_def]
  split
  · exact List.suffix_cons _ _
  · exact List.suffix_cons _ _
  · exact List.suffix_refl _

theorem scanExponent_suffix (s : List Char) : (scanExponent s).2 <:+ s := by
  cases s with
  | nil => exact List.suffix_refl _
  | cons e r =>
    simp only [scanExponent]
    split
    · split
      · exact List.suffix_refl _
      · exact ((List.dropWhile_suffix _).trans (scanSign_suffix r)).trans (List.suffix_cons _ _)
    · exact List.suffix_refl _

theorem scanPoint_suffix (s : List Char) : (scanPoint s).2 <:+ s := by
  rw [scanPoint.eq_def]
  split
  · split
    · exact List.suffix_refl _
    · exact (List.dropWhile_suffix _).trans (List.suffix_cons _ _)
  · exact List.suffix_refl _

theorem finishNumber_suffix (negative : Bool) (ds r : List Char) :
    (finishNumber negative ds r).2 <:+ r := by
  simp only [finishNumber]
  split
  · split <;> exact List.suffix_refl _
  · exact (scanExponent_suffix _).trans (scanPoint_suffix r)

/-- **The only failure of a number**: more digits in its whole part than are converted. -/
theorem cause_of_finishNumber {negative : Bool} {ds r : List Char} {cause : Cause}
    (h : (finishNumber negative ds r).1 = .error cause) :
    cause = .longInteger ds.length ∧ maxIntegerDigits < ds.length := by
  simp only [finishNumber] at h
  split at h
  · split at h
    · next hlong => exact ⟨(Except.error.inj h).symm, hlong⟩
    · cases h
  · cases h

theorem scanNumber?_eq_some {s rest : List Char} {v : Except Cause Data}
    (h : scanNumber? s = some (v, rest)) :
    rest <:+ s ∧ ∀ cause, v = .error cause → ∃ digits, cause = .longInteger digits ∧
      LongRun digits s := by
  obtain ⟨⟨ds, r⟩, hwhole, hfinish⟩ := Option.map_eq_some_iff.1 h
  obtain ⟨hs, hdigits⟩ := scanWhole?_eq_some hwhole
  have hr : r <:+ s := (List.IsSuffix.trans ⟨ds, hs.symm⟩ (scanMinus_suffix s))
  refine ⟨?_, fun cause hv => ?_⟩
  · have hrest := finishNumber_suffix (scanMinus s).1 ds r
    rw [hfinish] at hrest
    exact hrest.trans hr
  · obtain ⟨rfl, hlong⟩ := cause_of_finishNumber ((congrArg Prod.fst hfinish).trans hv)
    -- The run stands behind the sign, if there is one.
    refine ⟨_, rfl, hlong, ds, ?_, rfl, hdigits⟩
    have hinfix : ds <:+: (scanMinus s).2 := hs ▸ (List.prefix_append ds r).isInfix
    exact hinfix.trans (scanMinus_suffix s).isInfix

theorem scans_scanLeaf (s : List Char) : Scans occasion Prod.snd s (scanLeaf s) := by
  rw [scanLeaf.eq_def]
  split
  · next r =>
    have hstring := scans_scanString ('"' :: r).length [] r
    split
    · next hs =>
      rw [hs] at hstring
      exact hstring.trans (List.suffix_cons _ _)
    · next hs =>
      rw [hs] at hstring
      exact occasion.of_suffix hstring (List.suffix_cons _ _)
  · split
    · next v rest hconstant =>
      obtain ⟨w, -, hw⟩ := Option.map_eq_some_iff.1 hconstant
      cases hw
      exact List.drop_suffix _ _
    · split
      · next hnumber => exact (scanNumber?_eq_some hnumber).1
      · next hnumber =>
        obtain ⟨digits, rfl, hrun⟩ := (scanNumber?_eq_some hnumber).2 _ rfl
        exact hrun
      · trivial

theorem scans_scanName (s : List Char) : Scans occasion Prod.snd s (scanName s) := by
  rw [scanName.eq_def]
  split
  · next r =>
    have hstring := scans_scanString ('"' :: r).length [] r
    split
    · next rest hs =>
      rw [hs] at hstring
      split
      · next t hcolon =>
        have hspace := skipSpace_suffix rest
        rw [hcolon] at hspace
        exact (((skipSpace_suffix t).trans (List.suffix_cons _ _)).trans hspace).trans
          (List.IsSuffix.trans hstring (List.suffix_cons _ _))
      · trivial
    · next hs =>
      rw [hs] at hstring
      exact occasion.of_suffix hstring (List.suffix_cons _ _)
  · trivial

/-! ## Documents -/

/-- Reading on from any stack keeps to the occasions of a text, before and after a value. -/
def ScansDocument (s : List Char) : Prop :=
  (∀ stack, Scans occasion Prod.snd s (Reader.value stack s)) ∧
    ∀ stack v, Scans occasion Prod.snd s (Reader.after stack v s)

theorem skipSpace_eq_cons {s t : List Char} {c : Char} (h : skipSpace s = c :: t) :
    t <:+ s ∧ t.length < s.length := by
  have hsuffix : c :: t <:+ s := h ▸ skipSpace_suffix s
  exact ⟨(List.suffix_cons c t).trans hsuffix, hsuffix.length_le⟩

section

variable {s : List Char} (ih : ∀ t, t.length < s.length → ScansDocument t)

include ih

/-- The value of a field goes on after its name. -/
theorem scans_field (stack : String → List Frame) {t : List Char} (ht : t <:+ s)
    {r : Except Failure (Data × List Char)}
    (hok : ∀ name u, scanName t = .ok (name, u) → r = Reader.value (stack name) u)
    (herror : ∀ e, scanName t = .error e → r = .error e) : Scans occasion Prod.snd s r := by
  have hname := scans_scanName t
  cases h : scanName t with
  | ok a =>
    obtain ⟨name, u⟩ := a
    rw [h] at hname
    rw [hok name u h]
    exact ((ih u (Nat.lt_of_lt_of_le (scanName_length h) ht.length_le)).1 _).of_suffix
      (List.IsSuffix.trans hname ht)
  | error e =>
    rw [h] at hname
    rw [herror e h]
    exact occasion.of_suffix hname ht

theorem scans_value_of_shorter (stack : List Frame) :
    Scans occasion Prod.snd s (Reader.value stack s) := by
  rw [Reader.value.eq_def]
  split
  · next r =>
    dsimp only
    split
    · next t hclose =>
      obtain ⟨hsuffix, hlength⟩ := skipSpace_eq_cons hclose
      exact ((ih t (Nat.lt_succ_of_lt hlength)).2 _ _).of_suffix
        (hsuffix.trans (List.suffix_cons _ _))
    · refine scans_field ih (fun name => .object [] name :: stack)
        ((skipSpace_suffix r).trans (List.suffix_cons _ _)) (fun name u h => ?_) fun e h => ?_
      all_goals split <;> simp_all
  · next r =>
    dsimp only
    split
    · next t hclose =>
      obtain ⟨hsuffix, hlength⟩ := skipSpace_eq_cons hclose
      exact ((ih t (Nat.lt_succ_of_lt hlength)).2 _ _).of_suffix
        (hsuffix.trans (List.suffix_cons _ _))
    · exact ((ih _ (Nat.lt_succ_of_le (skipSpace_length r))).1 _).of_suffix
        ((skipSpace_suffix r).trans (List.suffix_cons _ _))
  · have hleaf := scans_scanLeaf s
    split
    · next v t h =>
      rw [h] at hleaf
      exact ((ih t (scanLeaf_length h)).2 _ _).of_suffix hleaf
    · next h =>
      rw [h] at hleaf
      exact hleaf

theorem scans_after_of_shorter (stack : List Frame) (v : Data) :
    Scans occasion Prod.snd s (Reader.after stack v s) := by
  rw [Reader.after.eq_def]
  split
  · exact List.suffix_refl s
  · dsimp only
    split
    · next r hcomma =>
      obtain ⟨hsuffix, hlength⟩ := skipSpace_eq_cons hcomma
      exact ((ih _ (Nat.lt_of_le_of_lt (skipSpace_length r) hlength)).1 _).of_suffix
        ((skipSpace_suffix r).trans hsuffix)
    · next r hclose =>
      obtain ⟨hsuffix, hlength⟩ := skipSpace_eq_cons hclose
      exact ((ih r hlength).2 _ _).of_suffix hsuffix
    · trivial
  · next done name outer =>
    dsimp only
    split
    · next r hcomma =>
      refine scans_field ih (fun next => .object (Data.putField done name v) next :: outer)
        ((skipSpace_suffix r).trans (skipSpace_eq_cons hcomma).1) (fun next u h => ?_) fun e h => ?_
      all_goals split <;> simp_all
    · next r hclose =>
      obtain ⟨hsuffix, hlength⟩ := skipSpace_eq_cons hclose
      exact ((ih r hlength).2 _ _).of_suffix hsuffix
    · trivial

end

theorem scansDocument (s : List Char) : ScansDocument s := by
  -- Both readings go on with less text, so the induction is on its length.
  induction hlength : s.length using Nat.strongRecOn generalizing s with
  | ind n ih =>
    have hshorter : ∀ t : List Char, t.length < s.length → ScansDocument t :=
      fun t ht => ih t.length (hlength ▸ ht) t rfl
    exact ⟨scans_value_of_shorter hshorter, scans_after_of_shorter hshorter⟩

/-- **A long integer stands in the text** that cannot be read because of it. -/
theorem longRun_of_readChars {s : List Char} {digits left : Nat}
    (h : readChars s = .error ⟨.longInteger digits, left⟩) : LongRun digits s := by
  have hdocument : readChars.document s = .error ⟨.longInteger digits, left⟩ := by
    rw [readChars.eq_def] at h
    split at h
    · split at h
      · cases h
      · exact h
    · exact h
  rw [readChars.document] at hdocument
  have hvalue := (scansDocument (skipSpace s)).1 []
  split at hdocument
  · split at hdocument
    · cases hdocument
    · cases hdocument
  · next hread =>
    cases hdocument
    rw [hread] at hvalue
    exact LongRun.of_suffix hvalue (skipSpace_suffix s)

end LayoutTree.Json
