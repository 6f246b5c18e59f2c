import Mathlib.Algebra.Group.Nat.Defs
import LayoutTree.Proofs.Text.Scan
import LayoutTree.Yaml.Token

/-!
# What makes a YAML text unscannable

Two failures of the YAML reader are about no problem at a position of the text: an escape that
stands for a code that no character has, and a number of a version with too many digits. Both stand
in the text: `occasion` says how. Every scanner of a part of the text keeps to that, since it starts
its own parts where the one before it stopped, and so does the scanner of tokens
(`holds_of_tokenize`).
-/

namespace LayoutTree.Yaml

open LayoutTree.Number LayoutTree.Text

/-! ## Occasions -/

/-- The number that hexadecimal digits stand for. -/
def hexValue (ds : List Char) : Nat :=
  ds.foldl (fun m d => 16 * m + (hexDigit? d).getD 0) 0

/-- An escape with eight digits that stands for a code beyond all characters. -/
def WideEscape (code : Nat) (s : List Char) : Prop :=
  0x10FFFF < code ∧ ∃ ds, '\\' :: 'U' :: ds <:+: s ∧ ds.length = 8 ∧
    (∀ d ∈ ds, (hexDigit? d).isSome) ∧ hexValue ds = code

/-- A code that no character has needs its escape, a number with too many digits their run, and a
problem at a position nothing. -/
def occasion : Occasion Failure where
  holds e s :=
    match e with
    | .invalidCode code => WideEscape code s
    | .longNumber digits => LongRun digits s
    | _ => True
  of_suffix {e _ _} h hst := by
    split
    · obtain ⟨hwide, ds, hds, hescape⟩ := h
      exact ⟨hwide, ds, hds.trans hst.isInfix, hescape⟩
    · exact LongRun.of_suffix h hst
    · trivial

/-- A scanner from a cursor on, with what it read and the cursor after it. -/
abbrev ScansFrom {α : Type} (c : Cursor) (r : Except Failure (α × Cursor)) : Prop :=
  Scans occasion (fun a => a.2.rest) c.rest r

/-! ## Cursors -/

namespace Cursor

theorem next_rest {c : Cursor} {a : Char} {r : List Char} (h : c.rest = a :: r) :
    c.next.rest = r := by
  rw [next]
  split
  · next hnil => cases hnil.symm.trans h
  · next hcons => exact (List.cons.inj (hcons.symm.trans h)).2

theorem next_suffix (c : Cursor) : c.next.rest <:+ c.rest := by
  rw [next]
  split
  · exact List.suffix_refl _
  · next h => exact h ▸ List.suffix_cons _ _

theorem forward_suffix (c : Cursor) (n : Nat) : (c.forward n).rest <:+ c.rest := by
  induction n generalizing c with
  | zero => exact List.suffix_refl _
  | succ n ih => exact (ih c.next).trans c.next_suffix

theorem skip_suffix (c : Cursor) (p : Char → Bool) : (c.skip p).rest <:+ c.rest :=
  c.forward_suffix _

theorem lineBreak_suffix {c after : Cursor} {b : Char} (h : c.lineBreak = some (b, after)) :
    after.rest <:+ c.rest := by
  rw [lineBreak] at h
  split at h
  · cases h
    exact c.forward_suffix 2
  · split at h
    · cases h
      exact c.next_suffix
    · split at h
      · cases h
        exact c.next_suffix
      · cases h
  · cases h

/-- The place after the spaces and a comment behind them. -/
theorem skipComment_suffix (c : Cursor) :
    (if c.skipSpaces.peek == some '#' then c.skipSpaces.skipLine else c.skipSpaces).rest <:+
      c.rest := by
  split
  · exact (skip_suffix _ _).trans (c.skip_suffix _)
  · exact c.skip_suffix _

theorem skipBreak_suffix (c : Cursor) : c.skipBreak.rest <:+ c.rest := by
  rw [skipBreak]
  split
  · next h => exact lineBreak_suffix h
  · exact List.suffix_refl _

end Cursor

/-! ## Quoted scalars -/

theorem scans_quotedBreaks (fuel : Nat) (c : Cursor) : ScansFrom c (quotedBreaks fuel c) := by
  induction fuel generalizing c with
  | zero => exact List.suffix_refl _
  | succ fuel ih =>
    rw [quotedBreaks]
    split
    · trivial
    · dsimp only
      split
      · exact c.skip_suffix _
      · next h =>
        refine Scans.bind ((ih _).of_suffix ?_) fun a => List.suffix_refl _
        exact (Cursor.lineBreak_suffix h).trans (c.skip_suffix _)

theorem scans_quotedBlanks (c : Cursor) : ScansFrom c (quotedBlanks c) := by
  rw [quotedBlanks]
  dsimp only
  split
  · trivial
  · split
    · exact c.forward_suffix _
    · next h =>
      refine Scans.bind ((scans_quotedBreaks _ _).of_suffix ?_) fun a => List.suffix_refl _
      exact (Cursor.lineBreak_suffix h).trans (c.forward_suffix _)

theorem hexDigit?_lt {c : Char} {d : Nat} (h : hexDigit? c = some d) : d < 16 := by
  have hbounds : ∀ b : Char, b ≤ c ↔ b.toNat ≤ c.toNat := fun b => Iff.rfl
  have hbounds' : ∀ b : Char, c ≤ b ↔ c.toNat ≤ b.toNat := fun b => Iff.rfl
  simp only [hexDigit?, Bool.and_eq_true, decide_eq_true_eq, hbounds, hbounds'] at h
  split at h
  · next hc =>
    have : c.toNat ≤ 57 := hc.2
    cases h
    omega
  · split at h
    · next hc =>
      have : c.toNat ≤ 102 := hc.2
      cases h
      omega
    · split at h
      · next hc =>
        have : c.toNat ≤ 70 := hc.2
        cases h
        omega
      · cases h

theorem hexValue_lt (ds : List Char) : hexValue ds < 16 ^ ds.length := by
  have hfold : ∀ m, ds.foldl (fun m d => 16 * m + (hexDigit? d).getD 0) m <
      (m + 1) * 16 ^ ds.length := by
    induction ds with
    | nil => simp
    | cons d ds ih =>
      intro m
      have hd : (hexDigit? d).getD 0 < 16 := by
        cases h : hexDigit? d with
        | none => decide
        | some n => exact hexDigit?_lt h
      calc ds.foldl (fun m d => 16 * m + (hexDigit? d).getD 0) (16 * m + (hexDigit? d).getD 0)
          < (16 * m + (hexDigit? d).getD 0 + 1) * 16 ^ ds.length := ih _
        _ ≤ (m + 1) * 16 * 16 ^ ds.length := Nat.mul_le_mul_right _ (by omega)
        _ = (m + 1) * 16 ^ (d :: ds).length := by
          rw [List.length_cons, Nat.pow_succ', Nat.mul_assoc]
  have h0 := hfold 0
  rwa [Nat.zero_add, Nat.one_mul] at h0

/-- Where no character stands out among the next ones, they are hexadecimal digits. -/
theorem hexDigits_of_firstNonHex? {c : Cursor} {n : Nat} (h : firstNonHex? c n = none) :
    (c.rest.take n).length = n ∧ ∀ d ∈ c.rest.take n, (hexDigit? d).isSome := by
  have hall : ∀ i < n, ∃ d, c.rest[i]? = some d ∧ (hexDigit? d).isSome := by
    intro i hi
    have h := List.find?_eq_none.1 h (c.rest[i]?) (List.mem_map.2 ⟨i, List.mem_range.2 hi, rfl⟩)
    cases hd : c.rest[i]? with
    | none => simp [hd] at h
    | some d => exact ⟨d, rfl, by simpa [hd, Option.isSome_iff_ne_none] using h⟩
  refine ⟨?_, fun d hd => ?_⟩
  · rw [List.length_take, Nat.min_eq_left]
    refine Nat.le_of_not_lt fun hlt => ?_
    obtain ⟨d, hd, -⟩ := hall _ hlt
    simp at hd
  · obtain ⟨i, hi, rfl⟩ := List.getElem_of_mem hd
    obtain ⟨d, hd, hhex⟩ := hall i (Nat.lt_of_lt_of_le hi (List.length_take_le _ _))
    rw [List.getElem_take]
    rw [List.getElem?_eq_some_iff] at hd
    obtain ⟨_, rfl⟩ := hd
    exact hhex

/-- The escapes with hexadecimal digits: only eight digits reach beyond all characters. -/
theorem wideEscape_of_hexNumber {c : Cursor} {a : Char} {r : List Char} {n : Nat}
    (hrest : c.rest = a :: r) (hn : escapeDigits? a = some n) (hhex : firstNonHex? c.next n = none)
    (hwide : 0x10FFFF < hexNumber c.next n) : WideEscape (hexNumber c.next n) ('\\' :: c.rest) := by
  obtain ⟨hlength, hdigits⟩ := hexDigits_of_firstNonHex? hhex
  have hlt : hexNumber c.next n < 16 ^ n := by
    have h := hexValue_lt (c.next.rest.take n)
    rwa [hlength] at h
  rw [escapeDigits?.eq_def] at hn
  split at hn
  all_goals cases hn
  · exact absurd hlt (by omega)
  · exact absurd hlt (by omega)
  -- Two and four digits stay below the limit.
  · refine ⟨hwide, c.next.rest.take 8, ?_, hlength, hdigits, rfl⟩
    rw [hrest, Cursor.next_rest hrest]
    exact (List.prefix_append _ (r.drop 8)).isInfix.trans (by simp)

/-- The cursor of an escape stands behind the backslash, which is a part of what it fails on. -/
theorem scans_escape (c : Cursor) :
    Scans occasion (fun a => a.2.rest) ('\\' :: c.rest) (escape c) := by
  rw [escape]
  split
  · trivial
  · next a ha =>
    split
    · exact c.next_suffix.trans (List.suffix_cons _ _)
    · split
      · next n hn =>
        dsimp only
        split
        · trivial
        · next hhex =>
          split
          · next hwide =>
            obtain ⟨r, hrest⟩ := List.head?_eq_some_iff.1 ha
            exact wideEscape_of_hexNumber hrest hn hhex hwide
          · exact ((c.next.forward_suffix n).trans c.next_suffix).trans (List.suffix_cons _ _)
      · split
        · exact (scans_quotedBreaks _ _).of_suffix
            (c.skipBreak_suffix.trans (List.suffix_cons _ _))
        · trivial

theorem scans_quotedText (fuel : Nat) (double : Bool) (c : Cursor) :
    ScansFrom c (quotedText fuel double c) := by
  induction fuel generalizing c with
  | zero => exact List.suffix_refl _
  | succ fuel ih =>
    rw [quotedText]
    generalize (if double then '"' else '\'') = quote
    dsimp only
    split
    · trivial
    · next a r hrest =>
      split
      · split
        · exact Scans.bind ((ih _).of_suffix (c.forward_suffix 2)) fun a => List.suffix_refl _
        · exact c.next_suffix
      · split
        · next hescape =>
          have hbackslash : a = '\\' := eq_of_beq (Bool.and_eq_true_iff.1 hescape).2
          have hcons : '\\' :: c.next.rest = c.rest := by
            rw [Cursor.next_rest hrest, hrest, hbackslash]
          refine Scans.bind ((scans_escape c.next).of_suffix ⟨[], hcons⟩) fun e => ?_
          exact Scans.bind (ih _) fun a => List.suffix_refl _
        · split
          · refine Scans.bind (scans_quotedBlanks c) fun b => ?_
            exact Scans.bind (ih _) fun a => List.suffix_refl _
          · exact Scans.bind ((ih _).of_suffix c.next_suffix) fun a => List.suffix_refl _

theorem scans_quotedScalar (c : Cursor) : ScansFrom c (quotedScalar c) :=
  (scans_quotedText _ _ _).of_suffix c.next_suffix

/-! ## Plain scalars -/

theorem plainBreaks_suffix (fuel : Nat) (c : Cursor) : (plainBreaks fuel c).2.rest <:+ c.rest := by
  induction fuel generalizing c with
  | zero => exact List.suffix_refl _
  | succ fuel ih =>
    rw [plainBreaks]
    split
    · exact (ih _).trans c.next_suffix
    · split
      · exact List.suffix_refl _
      · next h =>
        split
        · exact Cursor.lineBreak_suffix h
        · exact (ih _).trans (Cursor.lineBreak_suffix h)

theorem plainGap_suffix (c : Cursor) : (plainGap c).cursor.rest <:+ c.rest := by
  rw [plainGap]
  split
  · exact c.forward_suffix _
  · next b after h =>
    have hafter : after.rest <:+ c.rest := (Cursor.lineBreak_suffix h).trans (c.forward_suffix _)
    split
    · exact hafter
    · have hbreaks := plainBreaks_suffix (after.rest.length + 1) after
      split
      all_goals
        next h =>
          rw [h] at hbreaks
          exact hbreaks.trans hafter

theorem plainFrom_suffix (fuel : Nat) (inFlow : Bool) (indent : Nat) (gap : List Char) (c : Cursor)
    (broken : Bool) : (plainFrom fuel inFlow indent gap c broken).cursor.rest <:+ c.rest := by
  induction fuel generalizing gap c broken with
  | zero => exact List.suffix_refl _
  | succ fuel ih =>
    rw [plainFrom]
    split
    · exact List.suffix_refl _
    · dsimp only
      split
      · exact List.suffix_refl _
      · have hgap := (plainGap_suffix (c.forward (plainRun inFlow c.rest).length)).trans
          (c.forward_suffix _)
        split
        · exact hgap
        · exact (ih _ _ _).trans hgap

/-! ## Block scalars -/

theorem scans_blockDigit (c : Cursor) : ScansFrom c (blockDigit c) := by
  rw [blockDigit]
  split
  · exact List.suffix_refl _
  · trivial
  · exact c.next_suffix

/-- A part that has to end at its cursor. -/
theorem scans_ended {α : Type} (ends : Bool) (a : α) (c : Cursor) (p : Problem) :
    ScansFrom c (if ends then .ok (a, c) else c.fail p) := by
  split
  · exact List.suffix_refl _
  · trivial

theorem scans_blockHeader (c : Cursor) : ScansFrom c (blockHeader c) := by
  rw [blockHeader]
  split
  · exact Scans.bind ((scans_blockDigit _).of_suffix c.next_suffix) fun a =>
      scans_ended _ _ a.2 _
  · refine Scans.bind (scans_blockDigit c) fun a => ?_
    dsimp only
    split
    · exact (scans_ended _ _ a.2.next _).of_suffix a.2.next_suffix
    · exact scans_ended _ _ a.2 _

theorem scans_ignoredLine (c : Cursor) : Scans occasion Cursor.rest c.rest (ignoredLine c) := by
  have hcomment := c.skipComment_suffix
  rw [ignoredLine]
  generalize (if c.skipSpaces.peek == some '#' then c.skipSpaces.skipLine
    else c.skipSpaces) = c' at hcomment ⊢
  split
  · exact c'.skipBreak_suffix.trans hcomment
  · trivial

theorem leadingBreaks_suffix (fuel widest : Nat) (c : Cursor) :
    (leadingBreaks fuel widest c).2.2.rest <:+ c.rest := by
  induction fuel generalizing widest c with
  | zero => exact List.suffix_refl _
  | succ fuel ih =>
    rw [leadingBreaks]
    split
    · exact (ih _ _).trans c.next_suffix
    · split
      · exact List.suffix_refl _
      · next h => exact (ih _ _).trans (Cursor.lineBreak_suffix h)

theorem blockBreaks_suffix (fuel indent : Nat) (c : Cursor) :
    (blockBreaks fuel indent c).2.rest <:+ c.rest := by
  induction fuel generalizing c with
  | zero => exact List.suffix_refl _
  | succ fuel ih =>
    rw [blockBreaks]
    dsimp only
    split
    · exact c.forward_suffix _
    · next h => exact ((ih _).trans (Cursor.lineBreak_suffix h)).trans (c.forward_suffix _)

theorem blockLines_suffix (fuel : Nat) (folded : Bool) (indent : Nat) (breaks : List Char)
    (c : Cursor) : (blockLines fuel folded indent breaks c).2.2.2.rest <:+ c.rest := by
  induction fuel generalizing breaks c with
  | zero => exact List.suffix_refl _
  | succ fuel ih =>
    rw [blockLines]
    split
    · exact List.suffix_refl _
    · extract_lets opensPlain line c1
      split
      next lineEnd c2 hend =>
      split
      next more c3 hmore =>
      have hc2 : c2.rest <:+ c.rest := by
        refine List.IsSuffix.trans ?_ (c.forward_suffix line.length)
        split at hend
        · next h =>
          cases hend
          exact Cursor.lineBreak_suffix h
        · cases hend
          exact List.suffix_refl _
      have hc3 : c3.rest <:+ c.rest := by
        have h := blockBreaks_suffix (c2.rest.length + 1) indent c2
        rw [hmore] at h
        exact h.trans hc2
      split
      · exact (ih more c3).trans hc3
      · exact hc3

theorem scans_blockScalar (minIndent : Nat) (c' : Cursor) :
    ScansFrom c' (blockScalar minIndent c') := by
  refine Scans.bind ((scans_blockHeader _).of_suffix c'.next_suffix) fun header => ?_
  refine Scans.bind (scans_ignoredLine header.2) fun c => ?_
  split
  next indent breaks after hbreaks =>
  have hafter : after.rest <:+ c.rest := by
    split at hbreaks
    · have h := leadingBreaks_suffix (c.rest.length + 1) 0 c
      cases hbreaks
      exact h
    · next n _ =>
      have h := blockBreaks_suffix (c.rest.length + 1) (minIndent + n - 1) c
      cases hbreaks
      exact h
  have hlines := blockLines_suffix (after.rest.length + 1) (c'.peek == some '>') indent breaks after
  split
  next h =>
  rw [h] at hlines
  exact hlines.trans hafter

/-! ## Anchors, tags and directives -/

theorem scans_anchorName (c : Cursor) : ScansFrom c (anchorName c) := by
  rw [anchorName]
  dsimp only
  split
  · trivial
  · split
    · exact (Cursor.forward_suffix _ _).trans c.next_suffix
    · trivial

theorem scans_tagBytes (fuel : Nat) (kind : String) (c : Cursor) :
    ScansFrom c (tagBytes fuel kind c) := by
  induction fuel generalizing c with
  | zero => exact List.suffix_refl _
  | succ fuel ih =>
    rw [tagBytes]
    split
    · exact List.suffix_refl _
    · dsimp only
      split
      · trivial
      · refine Scans.bind ((ih _).of_suffix ?_) fun a => List.suffix_refl _
        exact (Cursor.forward_suffix _ _).trans c.next_suffix

theorem scans_tagText (fuel : Nat) (kind : String) (c : Cursor) :
    ScansFrom c (tagText fuel kind c) := by
  induction fuel generalizing c with
  | zero => exact List.suffix_refl _
  | succ fuel ih =>
    rw [tagText]
    split
    · exact List.suffix_refl _
    · split
      · refine Scans.bind (scans_tagBytes _ kind c) fun bs => ?_
        dsimp only
        split
        · trivial
        · exact Scans.bind (ih _) fun a => List.suffix_refl _
      · split
        · exact Scans.bind ((ih _).of_suffix c.next_suffix) fun a => List.suffix_refl _
        · exact List.suffix_refl _

theorem scans_tagSuffix (kind : String) (c : Cursor) : ScansFrom c (tagSuffix kind c) := by
  refine Scans.bind (scans_tagText _ kind c) fun a => ?_
  dsimp only
  split
  · trivial
  · exact List.suffix_refl _

theorem scans_tagHandle (c : Cursor) : ScansFrom c (tagHandle c) := by
  rw [tagHandle]
  split
  · trivial
  · dsimp only
    split
    · exact c.next_suffix
    · split
      · exact ((Cursor.next_suffix _).trans (Cursor.forward_suffix _ _)).trans c.next_suffix
      · trivial

theorem scans_tag (c : Cursor) : ScansFrom c (tag c) := by
  rw [tag]
  split
  · refine Scans.bind ((scans_tagSuffix _ _).of_suffix (c.forward_suffix 2)) fun a => ?_
    dsimp only
    split
    · trivial
    · exact (scans_ended _ _ a.2.next _).of_suffix a.2.next_suffix
  · dsimp only
    split
    · exact (scans_ended _ _ c.next _).of_suffix c.next_suffix
    · split
      · refine Scans.bind (scans_tagHandle c) fun handle => ?_
        exact Scans.bind (scans_tagSuffix _ _) fun a => scans_ended _ _ a.2 _
      · exact Scans.bind ((scans_tagSuffix _ _).of_suffix c.next_suffix) fun a =>
          scans_ended _ _ a.2 _

/-- **A number of a version** fails for its length only if it is a long run of digits. -/
theorem scans_versionNumber (c : Cursor) : ScansFrom c (versionNumber c) := by
  rw [versionNumber]
  split
  · trivial
  · split
    · next hlong => exact LongRun.of_takeWhile hlong fun _ hd => hd
    · exact c.forward_suffix _

theorem scans_directive (c : Cursor) : ScansFrom c (directive c) := by
  have hignored : ∀ (d : Directive) (c : Cursor),
      ScansFrom c (ignoredLine c >>= fun c => .ok (d, c)) := fun d c =>
    Scans.bind (scans_ignoredLine c) fun _ => List.suffix_refl _
  rw [directive]
  dsimp only
  split
  · trivial
  · split
    · trivial
    · have hname := (c.next.forward_suffix (c.next.span isWordChar).length).trans c.next_suffix
      refine Scans.of_suffix ?_ hname
      split
      · refine Scans.bind ((scans_versionNumber _).of_suffix (Cursor.skip_suffix _ _)) fun major => ?_
        split
        · trivial
        · refine Scans.bind ((scans_versionNumber _).of_suffix (Cursor.next_suffix _)) fun minor => ?_
          split
          · exact hignored _ _
          · trivial
      · split
        · refine Scans.bind ((scans_tagHandle _).of_suffix (Cursor.skip_suffix _ _)) fun handle => ?_
          split
          · trivial
          · refine Scans.bind ((scans_tagSuffix _ _).of_suffix (Cursor.skip_suffix _ _)) fun value => ?_
            split
            · exact hignored _ _
            · trivial
        · exact (hignored _ _).of_suffix (Cursor.skip_suffix _ _)

/-! ## Tokens -/

/-- A step of the scanner of tokens. -/
abbrev ScansTokens (s : Scanner) (r : Except Failure Scanner) : Prop :=
  Scans occasion (fun s => s.cursor.rest) s.cursor.rest r

namespace Scanner

theorem scans_dropStale (s : Scanner) : ScansTokens s s.dropStale := by
  rw [dropStale]
  split
  · trivial
  · exact List.suffix_refl _

theorem scans_dropKey (s : Scanner) : ScansTokens s s.dropKey := by
  rw [dropKey]
  split
  · trivial
  · exact List.suffix_refl _

theorem scans_saveKey (s : Scanner) : ScansTokens s s.saveKey := by
  rw [saveKey]
  split
  · exact Scans.bind (scans_dropKey s) fun _ => List.suffix_refl _
  · exact List.suffix_refl _

theorem scans_openBlock (s : Scanner) (kind : TokenKind) (entries : String) :
    ScansTokens s (s.openBlock kind entries) := by
  rw [openBlock]
  split
  · exact List.suffix_refl _
  · split
    · trivial
    · change (ite _ _ _ : Scanner).cursor.rest <:+ _
      split <;> exact List.suffix_refl _

@[simp] theorem cursor_unwind (s : Scanner) (column : Nat) : (s.unwind column).cursor = s.cursor := by
  have hpush : ∀ (inner : List Nat) (s : Scanner),
      (inner.foldl (fun s _ => s.push .blockEnd s.mark) s).cursor = s.cursor := by
    intro inner
    induction inner with
    | nil => exact fun _ => rfl
    | cons _ inner ih => exact fun s => ih _
  rw [unwind]
  split
  · rfl
  · exact hpush _ s

theorem toNextToken_suffix (fuel : Nat) (c : Cursor) : (toNextToken fuel c).1.rest <:+ c.rest := by
  induction fuel generalizing c with
  | zero => exact List.suffix_refl _
  | succ fuel ih =>
    have hcomment := c.skipComment_suffix
    rw [toNextToken]
    generalize (if c.skipSpaces.peek == some '#' then c.skipSpaces.skipLine
      else c.skipSpaces) = c' at hcomment ⊢
    split
    · exact hcomment
    · next h => exact ((ih _).trans (Cursor.lineBreak_suffix h)).trans hcomment

theorem advance_suffix (s : Scanner) : s.advance.cursor.rest <:+ s.cursor.rest := by
  rw [advance]
  refine (toNextToken_suffix _ _).trans ?_
  split
  · exact s.cursor.next_suffix
  · exact List.suffix_refl _

/-- What starts a line for itself closes all block collections first. -/
theorem scans_dropKey_unwind (s : Scanner) (column : Nat) :
    ScansTokens s (s.unwind column).dropKey := by
  have h := scans_dropKey (s.unwind column)
  rwa [ScansTokens, cursor_unwind] at h

theorem scans_fetchEnd (s : Scanner) : ScansTokens s s.fetchEnd :=
  Scans.bind (s.scans_dropKey_unwind 0) fun _ => List.suffix_refl _

theorem scans_fetchDirective (s : Scanner) : ScansTokens s s.fetchDirective :=
  Scans.bind (s.scans_dropKey_unwind 0) fun _ =>
    Scans.bind (scans_directive _) fun _ => List.suffix_refl _

theorem scans_fetchDocumentMark (s : Scanner) (kind : TokenKind) :
    ScansTokens s (s.fetchDocumentMark kind) :=
  Scans.bind (s.scans_dropKey_unwind 0) fun s => s.cursor.forward_suffix 3

theorem scans_fetchFlowStart (s : Scanner) (kind : TokenKind) :
    ScansTokens s (s.fetchFlowStart kind) :=
  Scans.bind (scans_saveKey s) fun s => s.cursor.forward_suffix 1

theorem scans_fetchFlowEnd (s : Scanner) (kind : TokenKind) :
    ScansTokens s (s.fetchFlowEnd kind) :=
  Scans.bind (scans_dropKey s) fun s => s.cursor.forward_suffix 1

theorem scans_fetchFlowEntry (s : Scanner) : ScansTokens s s.fetchFlowEntry :=
  Scans.bind (scans_dropKey { s with allowKey := true }) fun s => s.cursor.forward_suffix 1

theorem scans_fetchBlockEntry (s : Scanner) : ScansTokens s s.fetchBlockEntry :=
  Scans.bind (scans_openBlock s _ _) fun s =>
    Scans.bind (scans_dropKey { s with allowKey := true }) fun s => s.cursor.forward_suffix 1

theorem scans_fetchKey (s : Scanner) : ScansTokens s s.fetchKey :=
  Scans.bind (scans_openBlock s _ _) fun s =>
    Scans.bind (scans_dropKey { s with allowKey := !s.inFlow }) fun s => s.cursor.forward_suffix 1

theorem scans_fetchBlockScalar (s : Scanner) : ScansTokens s s.fetchBlockScalar :=
  Scans.bind (scans_dropKey { s with allowKey := true }) fun _ =>
    Scans.bind (scans_blockScalar _ _) fun _ => List.suffix_refl _

theorem scans_fetchPlain (s : Scanner) : ScansTokens s s.fetchPlain :=
  Scans.bind (scans_saveKey s) fun _ => plainFrom_suffix _ _ _ _ _ _

theorem scans_fetchText {α : Type} {s : Scanner} {read : Cursor → Except Failure (α × Cursor)}
    (hread : ∀ c, ScansFrom c (read c)) (kind : α → TokenKind) :
    ScansTokens s (s.fetchText read kind) :=
  Scans.bind (scans_saveKey s) fun _ => Scans.bind (hread _) fun _ => List.suffix_refl _

theorem scans_fetchValue (s : Scanner) : ScansTokens s s.fetchValue := by
  rw [fetchValue]
  split
  · refine List.IsSuffix.trans (Cursor.forward_suffix _ 1) ?_
    change (ite _ _ _ : Scanner).cursor.rest <:+ _
    split <;> exact List.suffix_refl _
  · exact Scans.bind (scans_openBlock s _ _) fun s =>
      Scans.bind (scans_dropKey { s with allowKey := !s.inFlow }) fun s => s.cursor.forward_suffix 1

theorem scans_fetchAt (s : Scanner) : ScansTokens s s.fetchAt := by
  rw [fetchAt]
  split
  · exact s.scans_fetchEnd
  · extract_lets next first
    repeat' refine iteInduction (fun _ => ?_) fun _ => ?_
    · exact s.scans_fetchDirective
    · exact s.scans_fetchDocumentMark .documentStart
    · exact s.scans_fetchDocumentMark .documentEnd
    · exact s.scans_fetchFlowStart .flowSequenceStart
    · exact s.scans_fetchFlowStart .flowMappingStart
    · exact s.scans_fetchFlowEnd .flowSequenceEnd
    · exact s.scans_fetchFlowEnd .flowMappingEnd
    · exact s.scans_fetchFlowEntry
    · exact s.scans_fetchBlockEntry
    · exact s.scans_fetchKey
    · exact s.scans_fetchValue
    · exact scans_fetchText scans_anchorName .alias
    · exact scans_fetchText scans_anchorName .anchor
    · exact scans_fetchText scans_tag .tag
    · exact s.scans_fetchBlockScalar
    · exact scans_fetchText scans_quotedScalar _
    · exact s.scans_fetchPlain
    · trivial

theorem scans_fetch (s : Scanner) : ScansTokens s s.fetch := by
  refine Scans.bind ((scans_dropStale s.advance).of_suffix s.advance_suffix) fun s => ?_
  have h := scans_fetchAt (s.unwind (s.mark.column + 1))
  rwa [ScansTokens, cursor_unwind] at h

end Scanner

/-- **What ends the tokens of a text** stands in the text. -/
theorem holds_of_tokenizeFrom {fuel : Nat} {s : Scanner} {e : Failure}
    (h : (tokenizeFrom fuel s).failure = some e) : occasion.holds e s.cursor.rest := by
  induction fuel generalizing s with
  | zero => cases h
  | succ fuel ih =>
    have hfetch := s.scans_fetch
    rw [tokenizeFrom] at h
    split at h
    · next hstep =>
      rw [hstep] at hfetch
      cases h
      exact hfetch
    · next after hstep =>
      rw [hstep] at hfetch
      split at h
      · cases h
      -- The failure can also be a key that is too far away after the token.
      · have hstale := after.scans_dropStale
        split at h
        · next hdrop =>
          rw [hdrop] at hstale
          cases h
          exact occasion.of_suffix hstale hfetch
        · next hdrop =>
          rw [hdrop] at hstale
          exact occasion.of_suffix (ih h) (List.IsSuffix.trans hstale hfetch)

theorem holds_of_tokenize {text : List Char} {e : Failure}
    (h : (tokenize text).failure = some e) : occasion.holds e text :=
  holds_of_tokenizeFrom h

end LayoutTree.Yaml
