import LayoutTree.Proofs.Yaml.Occasion
import LayoutTree.Yaml.Reader

/-!
# What makes a YAML text unreadable

The parser of nodes fails with a problem at a token, or with the failure that ended the tokens
(`Parse.Keeps`); it never changes that one. This holds of the primitive readings, and of readings in
a row, hence of every reading in the grammar, by induction on how deep nodes are nested. Together
with what is known of the tokens it says what a text holds that cannot be read because of a code or
a number (`holds_of_readChars`).
-/

namespace LayoutTree.Yaml

open LayoutTree.Text

/-- A problem at a position of the text. -/
def Failure.IsProblem (e : Failure) : Prop :=
  ∃ p m, e = .problem p m

theorem Failure.IsProblem.holds {e : Failure} (h : e.IsProblem) (s : List Char) :
    occasion.holds e s := by
  obtain ⟨p, m, rfl⟩ := h
  trivial

namespace Parse

/-- A reading leaves the failure behind the tokens as it is, and fails with that one or with a
problem. -/
def Keeps {α : Type} (x : Parse α) : Prop :=
  ∀ s, match x.run s with
    | .ok (_, s') => s'.failure = s.failure
    | .error e => e.IsProblem ∨ s.failure = some e

namespace Keeps

variable {α β : Type} {x : Parse α} {f : α → Parse β}

theorem pure (a : α) : Keeps (Pure.pure a : Parse α) := fun _ => rfl

theorem bind (hx : Keeps x) (hf : ∀ a, Keeps (f a)) : Keeps (x >>= f) := by
  intro s
  have hs := hx s
  rw [StateT.run_bind]
  cases hrun : x.run s with
  | error e =>
    rw [hrun] at hs
    exact hs
  | ok p =>
    rw [hrun] at hs
    have hp := hf p.1 p.2
    change match (f p.1).run p.2 with
      | .ok (_, s') => s'.failure = s.failure
      | .error e => e.IsProblem ∨ s.failure = some e
    cases hnext : (f p.1).run p.2 with
    | ok q =>
      rw [hnext] at hp
      exact hp.trans hs
    | error e =>
      rw [hnext] at hp
      exact hp.imp id hs.symm.trans

theorem get : Keeps (MonadState.get : Parse ParseState) := fun _ => rfl

theorem modify {f : ParseState → ParseState} (hf : ∀ s, (f s).failure = s.failure) :
    Keeps (modify f : Parse PUnit) := hf

theorem ite {p : Prop} [Decidable p] {y : Parse α} (hx : p → Keeps x) (hy : ¬p → Keeps y) :
    Keeps (if p then x else y) := by
  split
  · next h => exact hx h
  · next h => exact hy h

theorem fail (p : Problem) (m : Mark) : Keeps (Parse.fail p m : Parse α) := fun _ =>
  .inl ⟨p, m, rfl⟩

/-- Two ways to an intermediate result, and what goes on from it. -/
theorem ite_bind {p : Prop} [Decidable p] {y : Parse α} (hx : p → Keeps x) (hy : ¬p → Keeps y)
    (hf : ∀ a, Keeps (f a)) : Keeps (if p then x >>= f else y >>= f) :=
  ite (fun h => (hx h).bind hf) fun h => (hy h).bind hf

theorem unexpected (what : String) (t : Token) : Keeps (Parse.unexpected what t : Parse α) :=
  fail _ _

end Keeps

/-! ## Tokens and anchors -/

theorem keeps_peek : Keeps peek := by
  rintro ⟨tokens, failure, anchors, handles⟩
  cases tokens with
  | nil =>
    cases failure with
    | none => rfl
    | some e => exact .inr rfl
  | cons t tokens => rfl

theorem keeps_drop : Keeps drop :=
  keeps_peek.bind fun _ => .modify fun _ => rfl

theorem keeps_take : Keeps take :=
  keeps_peek.bind fun _ => keeps_drop.bind fun _ => .pure _

theorem keeps_resolve (name : String) (m : Mark) : Keeps (resolve name m) := by
  refine Keeps.get.bind fun s => ?_
  split
  · exact .pure _
  · exact .fail _ _

theorem keeps_declare (anchor : Option String) (m : Mark) : Keeps (declare anchor m) := by
  rw [declare.eq_def]
  split
  · exact .pure _
  · exact Keeps.get.bind fun s => .ite (fun _ => .fail _ _) fun _ => .modify fun _ => rfl

theorem keeps_complete (anchor : Option String) (n : Node) : Keeps (complete anchor n) := by
  rw [complete.eq_def]
  split
  · exact .pure _
  · exact Keeps.bind (.modify fun _ => rfl) fun _ => .pure _

theorem keeps_anchor? : Keeps anchor? := by
  refine keeps_peek.bind fun t => ?_
  split
  · exact keeps_drop.bind fun _ => .pure _
  · exact .pure _

theorem keeps_tag? : Keeps tag? := by
  refine keeps_peek.bind fun t => ?_
  split
  · exact keeps_drop.bind fun _ => .pure _
  · exact .pure _

theorem keeps_properties : Keeps properties := by
  refine keeps_anchor?.bind fun anchor => ?_
  split
  · exact keeps_tag?.bind fun _ => .pure _
  · refine keeps_tag?.bind fun tag => ?_
    split
    · exact .pure _
    · exact keeps_anchor?.bind fun _ => .pure _

theorem keeps_checkTag (p : Properties) : Keeps (checkTag p) := by
  rw [checkTag]
  split
  · exact Keeps.get.bind fun s => .ite (fun _ => .pure _) fun _ => .fail _ _
  · exact .pure _

/-! ## Nodes -/

/-- All readings of nodes with so much fuel. -/
structure KeepsNodes (fuel : Nat) : Prop where
  node (block indentless : Bool) : Keeps (node fuel block indentless)
  blockItems : Keeps (blockItems fuel)
  indentlessItems : Keeps (indentlessItems fuel)
  blockValue : Keeps (blockValue fuel)
  blockEntries : Keeps (blockEntries fuel)
  flowValue (close : TokenKind) : Keeps (flowValue fuel close)
  flowKey (close : TokenKind) (t : Token) : Keeps (flowKey fuel close t)
  flowItems (first : Bool) : Keeps (flowItems fuel first)
  flowEntries (first : Bool) : Keeps (flowEntries fuel first)

theorem keepsNodes_zero : KeepsNodes 0 where
  node _ _ := .fail _ _
  blockItems := .fail _ _
  indentlessItems := .fail _ _
  blockValue := .fail _ _
  blockEntries := .fail _ _
  flowValue _ := .fail _ _
  flowKey _ _ := .fail _ _
  flowItems _ := .fail _ _
  flowEntries _ := .fail _ _

/-- A collection after the token that opens it. -/
theorem keeps_collection {α : Type} {anchor : Option String} {m : Mark} {x : Parse α}
    {f : α → Node} (hx : Keeps x) :
    Keeps (do declare anchor m; drop; complete anchor (f (← x))) :=
  (keeps_declare anchor m).bind fun _ => keeps_drop.bind fun _ => hx.bind fun _ =>
    keeps_complete _ _

theorem keeps_missing (p : Properties) (t : Token) (m : Mark) : Keeps (node.missing p t m) :=
  .ite (fun _ => (keeps_declare _ _).bind fun _ => keeps_complete _ _) fun _ => .unexpected _ _

/-- An entry of a flow collection after the comma that all but the first one need. -/
theorem keeps_separated {α : Type} {first comma : Bool} {p : Problem} {m : Mark}
    {f : PUnit → Parse α} (hf : ∀ a, Keeps (f a)) :
    Keeps (if !first then if comma then drop >>= f else fail p m >>= f else f ()) :=
  .ite (fun _ => .ite_bind (fun _ => keeps_drop) (fun _ => .fail _ _) hf) fun _ => hf _

section

variable {fuel : Nat} (ih : KeepsNodes fuel)

include ih

theorem keeps_node (block indentless : Bool) : Keeps (node (fuel + 1) block indentless) := by
  rw [node]
  refine keeps_peek.bind fun t => ?_
  split
  · exact keeps_drop.bind fun _ => keeps_resolve _ _
  · refine keeps_properties.bind fun p => (keeps_checkTag p).bind fun _ => ?_
    refine keeps_peek.bind fun t => ?_
    dsimp only
    split
    · exact keeps_drop.bind fun _ => (keeps_declare _ _).bind fun _ => keeps_complete _ _
    · exact keeps_collection (ih.flowItems true)
    · exact keeps_collection (ih.flowEntries true)
    · exact .ite (fun _ => (keeps_declare _ _).bind fun _ => ih.indentlessItems.bind fun _ =>
        keeps_complete _ _) fun _ => keeps_missing _ _ _
    · exact .ite (fun _ => keeps_collection ih.blockItems) fun _ => keeps_missing _ _ _
    · exact .ite (fun _ => keeps_collection ih.blockEntries) fun _ => keeps_missing _ _ _
    · exact keeps_missing _ _ _

theorem keeps_blockItems : Keeps (blockItems (fuel + 1)) := by
  rw [blockItems]
  refine keeps_take.bind fun t => ?_
  split
  · exact keeps_peek.bind fun n => .ite_bind (fun _ => .pure _) (fun _ => ih.node _ _) fun _ =>
      ih.blockItems.bind fun _ => .pure _
  · exact .pure _
  · exact .unexpected _ _

theorem keeps_indentlessItems : Keeps (indentlessItems (fuel + 1)) := by
  rw [indentlessItems]
  refine keeps_peek.bind fun t => ?_
  split
  · refine keeps_drop.bind fun _ => keeps_peek.bind fun n => ?_
    exact .ite_bind (fun _ => .pure _) (fun _ => ih.node _ _) fun _ =>
      ih.indentlessItems.bind fun _ => .pure _
  · exact .pure _

theorem keeps_blockValue : Keeps (blockValue (fuel + 1)) := by
  rw [blockValue]
  refine keeps_peek.bind fun t => ?_
  split
  · exact keeps_drop.bind fun _ => keeps_peek.bind fun _ =>
      .ite (fun _ => .pure _) fun _ => ih.node _ _
  · exact .pure _

theorem keeps_blockEntries : Keeps (blockEntries (fuel + 1)) := by
  rw [blockEntries]
  refine keeps_take.bind fun t => ?_
  split
  · exact keeps_peek.bind fun _ => .ite_bind (fun _ => .pure _) (fun _ => ih.node _ _) fun _ =>
      ih.blockValue.bind fun _ => ih.blockEntries.bind fun _ => .pure _
  · exact .pure _
  · exact .unexpected _ _

theorem keeps_flowValue (close : TokenKind) : Keeps (flowValue (fuel + 1) close) := by
  rw [flowValue]
  refine keeps_peek.bind fun t => ?_
  split
  · exact keeps_drop.bind fun _ => keeps_peek.bind fun _ =>
      .ite (fun _ => .pure _) fun _ => ih.node _ _
  · exact .pure _

theorem keeps_flowKey (close : TokenKind) (t : Token) : Keeps (flowKey (fuel + 1) close t) := by
  rw [flowKey]
  exact keeps_peek.bind fun _ => .ite (fun _ => .pure _) fun _ => ih.node _ _

theorem keeps_flowItems (first : Bool) : Keeps (flowItems (fuel + 1) first) := by
  rw [flowItems]
  refine keeps_peek.bind fun t => .ite (fun _ => keeps_drop.bind fun _ => .pure _) fun _ => ?_
  refine keeps_separated fun _ => keeps_peek.bind fun t => ?_
  split
  · exact keeps_drop.bind fun _ => .pure _
  · exact keeps_drop.bind fun _ => (ih.flowKey _ _).bind fun _ => (ih.flowValue _).bind fun _ =>
      (ih.flowItems false).bind fun _ => .pure _
  · exact (ih.node _ _).bind fun _ => (ih.flowItems false).bind fun _ => .pure _

theorem keeps_flowEntries (first : Bool) : Keeps (flowEntries (fuel + 1) first) := by
  rw [flowEntries]
  refine keeps_peek.bind fun t => .ite (fun _ => keeps_drop.bind fun _ => .pure _) fun _ => ?_
  refine keeps_separated fun _ => keeps_peek.bind fun t => ?_
  split
  · exact keeps_drop.bind fun _ => .pure _
  · exact keeps_drop.bind fun _ => (ih.flowKey _ _).bind fun _ => (ih.flowValue _).bind fun _ =>
      (ih.flowEntries false).bind fun _ => .pure _
  · exact (ih.node _ _).bind fun _ => keeps_peek.bind fun _ =>
      (ih.flowEntries false).bind fun _ => .pure _

end

/-- **Every reading of nodes** keeps the failure, by induction on its fuel. -/
theorem keepsNodes (fuel : Nat) : KeepsNodes fuel := by
  induction fuel with
  | zero => exact keepsNodes_zero
  | succ fuel ih =>
    exact ⟨keeps_node ih, keeps_blockItems ih, keeps_indentlessItems ih, keeps_blockValue ih,
      keeps_blockEntries ih, keeps_flowValue ih, keeps_flowKey ih, keeps_flowItems ih,
      keeps_flowEntries ih⟩

/-! ## Documents -/

theorem keeps_directives (fuel : Nat) (versioned : Bool) (handles : List (String × String)) :
    Keeps (directives fuel versioned handles) := by
  induction fuel generalizing versioned handles with
  | zero => exact .pure _
  | succ fuel ih =>
    rw [directives]
    refine keeps_peek.bind fun t => ?_
    split
    · refine keeps_drop.bind fun _ => ?_
      split
      · exact .ite (fun _ => .fail _ _) fun _ => .ite (fun _ => .fail _ _) fun _ => ih _ _
      · exact .ite (fun _ => .fail _ _) fun _ => ih _ _
      · exact ih _ _
    · exact .pure _

theorem keeps_skipEnds (fuel : Nat) : Keeps (skipEnds fuel) := by
  induction fuel with
  | zero => exact .pure _
  | succ fuel ih =>
    exact keeps_peek.bind fun _ => .ite (fun _ => keeps_drop.bind fun _ => ih) fun _ => .pure _

theorem keeps_documentStart (fuel : Nat) : Keeps (documentStart fuel) := by
  refine (keeps_skipEnds fuel).bind fun _ => keeps_peek.bind fun t => ?_
  refine .ite (fun _ => .pure _) fun _ => (keeps_directives _ _ _).bind fun _ => ?_
  refine keeps_peek.bind fun s => .ite (fun _ => .unexpected _ _) fun _ => ?_
  exact keeps_drop.bind fun _ => Keeps.bind (.modify fun _ => rfl) fun _ => .pure _

theorem keeps_content (fuel : Nat) : Keeps (content fuel) := by
  refine keeps_peek.bind fun t => ?_
  split
  · exact .pure _
  · exact .pure _
  · exact .pure _
  · exact .pure _
  · exact (keepsNodes fuel).node _ _

theorem keeps_documentEnd : Keeps documentEnd :=
  keeps_peek.bind fun _ => .ite (fun _ => keeps_drop) fun _ => .pure _

theorem keeps_firstDocument (fuel : Nat) : Keeps (firstDocument fuel) := by
  refine keeps_peek.bind fun t => .ite (fun _ => ?_) fun _ => ?_
  · refine (keeps_documentStart fuel).bind fun start => ?_
    split
    · exact .pure _
    · exact (keeps_content fuel).bind fun _ => keeps_documentEnd.bind fun _ => .pure _
  · exact Keeps.bind (.modify fun _ => rfl) fun _ => ((keepsNodes fuel).node _ _).bind fun _ =>
      keeps_documentEnd.bind fun _ => .pure _

theorem keeps_single (fuel : Nat) : Keeps (single fuel) := by
  refine (keeps_firstDocument fuel).bind fun n => ?_
  split
  · exact .pure _
  · refine (keeps_documentStart fuel).bind fun start => ?_
    split
    · exact .pure _
    · exact .fail _ _

end Parse

/-! ## Values -/

/-- A result that is missing because of a problem, if it is. -/
def FailsMildly {α : Type} (r : Except Failure α) : Prop :=
  ∀ e, r = .error e → e.IsProblem

namespace FailsMildly

variable {α β : Type} {r : Except Failure α}

theorem ok (a : α) : FailsMildly (.ok a : Except Failure α) := nofun

theorem problem (p : Problem) (m : Mark) : FailsMildly (.error (.problem p m) : Except Failure α) :=
  fun _ h => ⟨p, m, (Except.error.inj h).symm⟩

theorem bind {f : α → Except Failure β} (hr : FailsMildly r) (hf : ∀ a, FailsMildly (f a)) :
    FailsMildly (r >>= f) := by
  cases r with
  | ok a => exact hf a
  | error e => exact fun e' h => hr e' (congrArg _ (Except.error.inj h))

end FailsMildly

mutual

theorem Node.failsMildly_value : ∀ n : Node, FailsMildly n.value
  | .scalar _ _ => .ok _
  | .sequence items _ => (Node.failsMildly_values items).bind fun _ => .ok _
  | .mapping entries _ => (Node.failsMildly_fields [] entries).bind fun _ => .ok _
  | .cycle _ => .problem _ _

theorem Node.failsMildly_values : ∀ items : List Node, FailsMildly (Node.values items)
  | [] => .ok _
  | n :: rest => n.failsMildly_value.bind fun _ =>
      (Node.failsMildly_values rest).bind fun _ => .ok _

theorem Node.failsMildly_fields (known : List (String × Data)) :
    ∀ entries : List (Node × Node), FailsMildly (Node.fields known entries)
  | [] => .ok _
  | (key, n) :: rest => key.failsMildly_value.bind fun v => by
    split
    · exact n.failsMildly_value.bind fun _ => Node.failsMildly_fields _ rest
    · exact .problem _ _

end

/-! ## Texts -/

/-- What a text without a document holds. -/
theorem holds_of_read {s : List Char} {e : Failure} (h : Node.read s = .error e) :
    occasion.holds e s := by
  rw [Node.read] at h
  split at h
  · cases h
    trivial
  · have hkeeps := Parse.keeps_single (4 * (tokenize s).list.length + 8)
      ⟨(tokenize s).list, (tokenize s).failure, [], []⟩
    dsimp only at h
    cases hrun : (Parse.single (4 * (tokenize s).list.length + 8)).run
        ⟨(tokenize s).list, (tokenize s).failure, [], []⟩ with
    | ok p =>
      rw [hrun] at h
      cases h
    | error e' =>
      rw [hrun] at h hkeeps
      cases h
      exact hkeeps.elim (fun hproblem => hproblem.holds s) holds_of_tokenize

/-- **What a text holds that cannot be read**: for a code that no character has its escape, and for a
number that is too long its digits. -/
theorem holds_of_readChars {s : List Char} {e : Failure} (h : readChars s = .error e) :
    occasion.holds e s := by
  cases hread : Node.read s with
  | error e' =>
    rw [readChars, hread] at h
    cases h
    exact holds_of_read hread
  | ok n =>
    refine Failure.IsProblem.holds ?_ s
    rw [readChars, hread] at h
    cases n with
    | none => cases h
    | some n => exact (n.failsMildly_value.bind fun _ => FailsMildly.ok _) e h

end LayoutTree.Yaml
