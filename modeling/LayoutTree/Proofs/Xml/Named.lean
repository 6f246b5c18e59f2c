import LayoutTree.Proofs.Xml.LocalName
import LayoutTree.Xml.Reader

/-!
# The names that are read

A name in a document is made of name characters and a colon. So no name that the automaton collects
holds a closing brace (`Lexer.keeps_step`), and neither does a local name of the tree that is built
from its tokens.

* `isNamed_of_readChars`: the local names in a tree that is read have no closing brace.
-/

namespace LayoutTree.Xml

/-! ## The automaton -/

/-- The names in a start tag under construction have no closing brace. -/
def OpenTag.Clean (tag : OpenTag) : Prop :=
  '\x7d' ∉ tag.name.toList ∧ ∀ a ∈ tag.attributes, '\x7d' ∉ a.name.toList

/-- The names in a token have no closing brace. -/
def TokenKind.Clean : TokenKind → Prop
  | .startTag name attributes _ => OpenTag.Clean ⟨name, attributes⟩
  | _ => True

/-- The names of a start tag so far have no closing brace. -/
def Lex.Clean : Lex → Prop
  | .tagName name _ => '\x7d' ∉ name
  | .tagGap tag => tag.Clean
  | .attributeName tag _ name _ => tag.Clean ∧ '\x7d' ∉ name
  | .attributeEquals tag _ name => tag.Clean ∧ '\x7d' ∉ name.toList
  | .attributeQuote tag _ name => tag.Clean ∧ '\x7d' ∉ name.toList
  | .attributeValue tag _ name _ _ => tag.Clean ∧ '\x7d' ∉ name.toList
  | .attributeReference tag _ name _ _ _ _ => tag.Clean ∧ '\x7d' ∉ name.toList
  | .attributeEnd tag => tag.Clean
  | .slash tag => tag.Clean
  | _ => True

namespace Lexer

/-- The names in the tokens so far have no closing brace. -/
def Collected (l : Lexer) : Prop :=
  ∀ t ∈ l.tokens, t.kind.Clean

/-- The names that an automaton has read have no closing brace. -/
def Clean (l : Lexer) : Prop :=
  l.lex.Clean ∧ l.Collected

section Simp

variable (l : Lexer) (i : Nat) (lex : Lex) (kind : TokenKind)

@[simp] theorem clean_into : (l.into lex).Clean ↔ lex.Clean ∧ l.Collected := Iff.rfl

@[simp] theorem clean_begin : (l.begin i lex).Clean ↔ lex.Clean ∧ l.Collected := Iff.rfl

@[simp] theorem collected_begin : (l.begin i lex).Collected ↔ l.Collected := Iff.rfl

@[simp] theorem collected_emit : (l.emit kind).Collected ↔ kind.Clean ∧ l.Collected :=
  List.forall_mem_cons

@[simp] theorem clean_emit : (l.emit kind).Clean ↔ kind.Clean ∧ l.Collected := by
  rw [Clean, collected_emit]
  exact true_and _ ▸ Iff.rfl

@[simp] theorem clean_skip : l.skip.Clean ↔ l.Collected := by
  rw [Clean]
  exact true_and _ ▸ Iff.rfl

@[simp] theorem clean_closeElement (name : String) :
    (l.closeElement name).Clean ↔ l.Collected := by
  change (l.emit (.endTag name)).Clean ↔ _
  simp [TokenKind.Clean]

@[simp] theorem clean_openElement (tag : OpenTag) (isEmpty : Bool) :
    (l.openElement tag isEmpty).Clean ↔ tag.Clean ∧ l.Collected := by
  change (l.emit (.startTag tag.name tag.attributes.reverse isEmpty)).Clean ↔ _
  simp [TokenKind.Clean, OpenTag.Clean]

end Simp

/-- An automaton that takes a character stays clean. -/
def Keeps (next : Option Lexer) : Prop :=
  ∀ l ∈ next, l.Clean

@[simp] theorem keeps_none : Keeps none := by
  simp [Keeps]

@[simp] theorem keeps_some {l : Lexer} : Keeps (some l) ↔ l.Clean := by
  simp [Keeps]

@[simp] theorem keeps_ite {p : Prop} [Decidable p] {a b : Option Lexer} :
    Keeps (if p then a else b) ↔ (p → Keeps a) ∧ (¬ p → Keeps b) := by
  by_cases hp : p <;> simp [hp]

@[simp] theorem keeps_map {α : Type} {o : Option α} {f : α → Lexer} :
    Keeps (o.map f) ↔ ∀ a ∈ o, (f a).Clean := by
  simp [Keeps]

theorem brace_mem_ofReversed {s : List Char} : '\x7d' ∈ (ofReversed s).toList ↔ '\x7d' ∈ s := by
  simp [ofReversed]

theorem brace_ne_of_isNameStart {c : Char} (h : isNameStart c = true) : '\x7d' ≠ c := by
  rintro rfl
  exact absurd h (by decide)

theorem brace_ne_of_isNameChar {c : Char} (h : isNameChar c = true) : '\x7d' ≠ c := by
  rintro rfl
  exact absurd h (by decide)

theorem brace_not_mem_extendName {name name' : List Char} {colon colon' : ColonState} {c : Char}
    (h : '\x7d' ∉ name) (hname : extendName name colon c = some (name', colon')) :
    '\x7d' ∉ name' := by
  have hc : '\x7d' ≠ c ∧ name' = c :: name := by
    unfold extendName at hname
    split at hname
    · split at hname <;> simp_all [brace_ne_of_isNameStart]
    · split at hname
      · simp_all
      · split at hname <;> simp_all [brace_ne_of_isNameChar]
    · split at hname <;> simp_all [brace_ne_of_isNameChar]
  rw [hc.2]
  exact List.not_mem_cons_of_ne_of_not_mem hc.1 h

section Step

variable {l : Lexer} (h : l.Collected) (i : Nat) (c : Char)
include h

theorem keeps_into {lex : Lex} (hlex : lex.Clean) : Keeps (some (l.into lex)) :=
  keeps_some.2 ⟨hlex, h⟩

theorem keeps_begin {lex : Lex} (hlex : lex.Clean) : Keeps (some (l.begin i lex)) :=
  keeps_some.2 ⟨hlex, h⟩

theorem keeps_emit {kind : TokenKind} (hkind : kind.Clean) : Keeps (some (l.emit kind)) :=
  keeps_some.2 ((clean_emit l kind).2 ⟨hkind, h⟩)

theorem keeps_skip : Keeps (some l.skip) :=
  keeps_some.2 ((clean_skip l).2 h)

theorem keeps_stepOutside : Keeps (l.stepOutside i c) := by
  unfold Lexer.stepOutside
  repeat' first
    | exact keeps_none
    | exact keeps_skip h
    | exact keeps_begin h i trivial
    | exact @keeps_emit (l.begin i .idle) h .stray trivial
    | refine keeps_ite.2 ⟨fun _ => ?_, fun _ => ?_⟩

theorem keeps_stepInside : Keeps (l.stepInside i c) := by
  unfold Lexer.stepInside
  refine keeps_ite.2 ⟨fun _ => keeps_begin h i trivial, fun _ => keeps_ite.2
    ⟨fun _ => keeps_begin h i trivial, fun _ => keeps_ite.2 ⟨fun _ => ?_, fun _ => keeps_ite.2
      ⟨fun _ => @keeps_emit (l.begin i .idle) h (.char c) trivial, fun _ => keeps_none⟩⟩⟩⟩
  exact keeps_some.2 ⟨trivial, (collected_emit _ _).2 ⟨trivial, h⟩⟩

theorem keeps_stepIdle : Keeps (l.stepIdle i c) :=
  keeps_ite.2 ⟨fun _ => keeps_stepOutside h i c, fun _ => keeps_stepInside h i c⟩

theorem keeps_stepOpened : Keeps (l.stepOpened c) := by
  unfold Lexer.stepOpened
  repeat' first
    | exact keeps_none
    | exact keeps_into h trivial
    | exact keeps_emit h trivial
    | exact keeps_into h (List.mem_singleton.not.2 (brace_ne_of_isNameStart (by assumption)))
    | refine keeps_ite.2 ⟨fun _ => ?_, fun _ => ?_⟩

theorem keeps_stepBang : Keeps (l.stepBang c) := by
  unfold Lexer.stepBang
  repeat' first
    | exact keeps_none
    | exact keeps_into h trivial
    | exact keeps_emit h trivial
    | refine keeps_ite.2 ⟨fun _ => ?_, fun _ => ?_⟩

theorem keeps_stepTagGap {tag : OpenTag} (htag : tag.Clean) : Keeps (l.stepTagGap tag i c) := by
  refine keeps_ite.2 ⟨fun _ => keeps_into h htag, fun _ => keeps_ite.2 ⟨fun _ => ?_, fun _ =>
    keeps_ite.2 ⟨fun _ => keeps_into h htag, fun _ => keeps_ite.2 ⟨fun hc => ?_, fun _ =>
      keeps_none⟩⟩⟩⟩
  · exact keeps_some.2 ((clean_openElement l tag false).2 ⟨htag, h⟩)
  · exact keeps_into h ⟨htag, List.mem_singleton.not.2 (brace_ne_of_isNameStart hc)⟩

theorem keeps_stepTargetEnd (name : List Char) : Keeps (l.stepTargetEnd name c) := by
  unfold Lexer.stepTargetEnd
  repeat' first
    | exact keeps_none
    | exact keeps_into h trivial
    | refine keeps_ite.2 ⟨fun _ => ?_, fun _ => ?_⟩

theorem keeps_stepStrayWord (isName : Bool) (colon : ColonState) :
    Keeps (l.stepStrayWord isName colon c) := by
  have hword (p : Prop) [Decidable p] : (if p then Lex.strayWord true .here
      else Lex.strayWord false .behind).Clean := by split <;> trivial
  refine keeps_ite.2 ⟨fun _ => keeps_into h trivial, fun _ => keeps_ite.2
    ⟨fun _ => keeps_into h (hword _), fun _ => keeps_ite.2
      ⟨fun _ => keeps_emit h trivial, fun _ => keeps_none⟩⟩⟩

theorem keeps_stepDocumentType (body : List Char) (depth : Nat) (quote : Option Char) :
    Keeps (l.stepDocumentType body depth quote c) := by
  unfold Lexer.stepDocumentType
  refine keeps_ite.2 ⟨fun _ => keeps_none, fun _ => ?_⟩
  cases quote with
  | some mark => exact keeps_into h trivial
  | none =>
    repeat' first
      | exact keeps_into h trivial
      | exact keeps_emit h trivial
      | refine keeps_ite.2 ⟨fun _ => ?_, fun _ => ?_⟩

end Step

theorem keeps_stepStraySign {l : Lexer} (h : l.Clean) (sign : Char) (alone : Bool) (c : Char) :
    Keeps (l.stepStraySign sign alone c) := by
  unfold Lexer.stepStraySign
  repeat' first
    | exact keeps_none
    | exact keeps_some.2 h
    | exact keeps_into h.2 trivial
    | exact keeps_emit h.2 trivial
    | refine keeps_ite.2 ⟨fun _ => ?_, fun _ => ?_⟩

theorem collected_foldl_emit {l : Lexer} (h : l.Collected) (n : Nat) (c : Char) :
    ((List.replicate n (TokenKind.char c)).foldl emit l).Collected :=
  List.foldlRecOn _ _ h fun l hl kind hkind => by
    rw [List.eq_of_mem_replicate hkind]
    exact (collected_emit l _).2 ⟨trivial, hl⟩

/-- One more character keeps an automaton clean. -/
theorem keeps_step {l : Lexer} (h : l.Clean) (i : Nat) (c : Char) : Keeps (l.step i c) := by
  obtain ⟨hlex, htokens⟩ := id h
  rw [step]
  cases hl : l.lex <;> rw [hl] at hlex <;> dsimp only
  case idle => exact keeps_stepIdle htokens i c
  case brackets n => simp [keeps_stepIdle htokens i c, Lex.Clean, TokenKind.Clean, htokens]
  case opened => exact keeps_stepOpened htokens c
  case tagName name colon =>
    have hname := brace_mem_ofReversed.not.2 hlex
    refine keeps_ite.2 ⟨fun _ => keeps_stepTagGap htokens i c ⟨hname, nofun⟩, fun _ => ?_⟩
    exact keeps_map.2 fun _ hnext => ⟨brace_not_mem_extendName hlex hnext, htokens⟩
  case tagGap tag => exact keeps_stepTagGap htokens i c hlex
  case attributeName tag start name colon =>
    have hname := brace_mem_ofReversed.not.2 hlex.2
    refine keeps_ite.2 ⟨fun _ => keeps_some.2 ⟨⟨hlex.1, hname⟩, htokens⟩, fun _ => keeps_ite.2
      ⟨fun _ => keeps_some.2 ⟨⟨hlex.1, hname⟩, htokens⟩, fun _ => keeps_map.2 fun _ hnext => ?_⟩⟩
    exact ⟨⟨hlex.1, brace_not_mem_extendName hlex.2 hnext⟩, htokens⟩
  case attributeEquals tag start name =>
    simp [h, htokens, show tag.Clean ∧ '\x7d' ∉ name.toList from hlex, Lex.Clean]
  case attributeQuote tag start name =>
    simp [h, htokens, show tag.Clean ∧ '\x7d' ∉ name.toList from hlex, Lex.Clean]
  case attributeValue tag start name mark value =>
    have htag : OpenTag.Clean ⟨tag.name, ⟨name, start, value.reverse⟩ :: tag.attributes⟩ :=
      ⟨hlex.1.1, List.forall_mem_cons.2 ⟨hlex.2, hlex.1.2⟩⟩
    simp [htokens, htag, show tag.Clean ∧ '\x7d' ∉ name.toList from hlex, Lex.Clean]
  case attributeReference tag start name mark value refStart r =>
    refine keeps_map.2 fun next _ => ?_
    cases next <;> exact ⟨hlex, htokens⟩
  case reference r =>
    refine keeps_map.2 fun next _ => ?_
    cases next <;> simp [Lex.Clean, TokenKind.Clean, htokens]
  case attributeEnd tag => simp [keeps_stepTagGap htokens i c hlex]
  case bang => exact keeps_stepBang htokens c
  case instructionTarget name =>
    simp [keeps_stepTargetEnd htokens c name, Lex.Clean, htokens]
  case documentType body depth quote => exact keeps_stepDocumentType htokens c body depth quote
  case strayWord isName colon => exact keeps_stepStrayWord htokens c isName colon
  case straySign sign alone => exact keeps_stepStraySign h sign alone c
  case slash tag => simp [show tag.Clean from hlex, htokens]
  case endOpened => simp [Lex.Clean, htokens]
  case endName name => simp [Lex.Clean, htokens]
  case endGap name => simp [h, htokens]
  case commentOpened => simp [Lex.Clean, htokens]
  case comment dashes => simp [Lex.Clean, htokens]
  case literalOpened expected => split <;> simp [Lex.Clean, htokens]
  case literal brackets =>
    have hbrackets := collected_foldl_emit htokens brackets ']'
    simp [apply_ite Clean, Lex.Clean, TokenKind.Clean, htokens, hbrackets]
  case instructionOpened => simp [Lex.Clean, htokens]
  case instruction declaration mark =>
    refine keeps_ite.2 ⟨fun _ => ?_, fun _ => by simp [Lex.Clean, htokens]⟩
    cases declaration <;> simp [TokenKind.Clean, htokens]
  case keyword name => simp [Lex.Clean, TokenKind.Clean, htokens]
  case targetMark isDeclaration => simp [TokenKind.Clean, htokens]
  case strayParenthesis => simp [TokenKind.Clean, htokens]
  case strayQuoted mark => simp [Lex.Clean, h, htokens]
  case strayQuoteEnd => simp [TokenKind.Clean, htokens]

end Lexer

/-- The names in the tokens of a text have no closing brace. -/
theorem clean_of_mem_tokenizeFrom {l : Lexer} (h : l.Clean) (i : Nat) (s : List Char) :
    ∀ t ∈ (tokenizeFrom l i s).1, t.kind.Clean := by
  have hdone {l : Lexer} (hl : l.Collected) : ∀ t ∈ l.tokens.reverse, t.kind.Clean :=
    fun t ht => hl t (List.mem_reverse.1 ht)
  induction s generalizing l i with
  | nil =>
    have hstray : (l.emit .stray).Collected := (Lexer.collected_emit l _).2 ⟨trivial, h.2⟩
    rw [tokenizeFrom]
    split <;> first | exact hdone h.2 | exact hdone hstray
  | cons c rest ih =>
    rw [tokenizeFrom]
    cases hstep : l.step i c with
    | none => exact hdone h.2
    | some l' => exact ih (Lexer.keeps_step h i c l' hstep) (i + 1)

theorem Lexer.clean_start (depth : Nat) (rooted : Bool) :
    Lexer.Clean ⟨depth, rooted, .idle, 0, []⟩ :=
  ⟨trivial, nofun⟩

theorem clean_of_mem_tokenize (s : List Char) : ∀ t ∈ (tokenize s).1, t.kind.Clean :=
  clean_of_mem_tokenizeFrom (Lexer.clean_start _ _) 0 s

theorem clean_of_mem_tokenizeContent {s : List Char} {tokens : List Token} {ending : Ending}
    (h : tokenizeContent s = (tokens, ending)) : ∀ t ∈ tokens, t.kind.Clean := by
  have hclean := clean_of_mem_tokenizeFrom (Lexer.clean_start 1 true) 0 s
  rwa [← tokenizeContent, h] at hclean

/-! ## Names in the tree -/

theorem brace_not_mem_splitName {name : String} (h : '\x7d' ∉ name.toList) :
    '\x7d' ∉ (splitName name).2.toList := by
  rw [splitName]
  split
  · exact h
  · rw [String.toList_ofList]
    exact fun hmem => h (List.mem_of_mem_drop hmem)

theorem localName_elementName {bindings : Bindings} {name : String} {n : Name}
    (hn : elementName? bindings name = some n) : n.localName = (splitName name).2 := by
  rw [elementName?] at hn
  split at hn <;> next hsplit =>
    rw [hsplit]
    first
    | obtain ⟨uri, -, rfl⟩ := Option.map_eq_some_iff.1 hn
      rfl
    | split at hn <;> cases hn <;> rfl

theorem localName_attributeName {bindings : Bindings} {name : String} {n : Name}
    (hn : attributeName? bindings name = some n) : n.localName = (splitName name).2 := by
  rw [attributeName?] at hn
  split at hn <;> next hsplit =>
    rw [hsplit]
    first
    | obtain ⟨uri, -, rfl⟩ := Option.map_eq_some_iff.1 hn
      rfl
    | cases hn
      rfl

namespace Builder

/-- The attributes of a tag have the names that are written in it. -/
theorem exists_mem_of_readAttributes {doc : DocumentType} {start : Nat} {raw : List RawAttribute} :
    ∀ {seen : List String} {bindings bindings' : Bindings} {out : List (String × String)},
      readAttributes doc start seen bindings raw = .ok (out, bindings') →
        ∀ p ∈ out, ∃ a ∈ raw, a.name = p.1 := by
  induction raw with
  | nil =>
    intro seen bindings bindings' out h p hp
    rw [readAttributes] at h
    cases h
    cases hp
  | cons a rest ih =>
    intro seen bindings bindings' out h p hp
    rw [readAttributes] at h
    split at h
    · cases h
    · cases hvalue : expand doc start doc.entities.length [] a.value with
      | error e => rw [hvalue] at h; cases h
      | ok value =>
        rw [hvalue] at h
        simp only [bind, Except.bind] at h
        have hrest (hmore : ∃ b ∈ rest, b.name = p.1) : ∃ b ∈ a :: rest, b.name = p.1 :=
          hmore.imp fun b hb => ⟨List.mem_cons_of_mem _ hb.1, hb.2⟩
        split at h
        · split at h
          · cases h
          · exact hrest (ih h p hp)
        · split at h
          · cases h
          · next more hmore =>
            cases h
            obtain rfl | hp := List.mem_cons.1 hp
            · exact ⟨a, List.mem_cons_self, rfl⟩
            · exact hrest (ih hmore p hp)

/-- The names of resolved attributes have no closing brace. -/
theorem localNames_of_resolveAttributes {start : Nat} {bindings : Bindings}
    {raw : List (String × String)} :
    ∀ {seen : List Name} {out : List Attribute}, (∀ p ∈ raw, '\x7d' ∉ p.1.toList) →
      resolveAttributes start bindings seen raw = .ok out →
        ∀ a ∈ out, '\x7d' ∉ a.name.localName.toList := by
  induction raw with
  | nil =>
    intro seen out _ h a ha
    rw [resolveAttributes] at h
    cases h
    cases ha
  | cons p rest ih =>
    intro seen out hraw h a ha
    obtain ⟨hname, hrest⟩ := List.forall_mem_cons.1 hraw
    rw [resolveAttributes] at h
    split at h
    · cases h
    · next n hn =>
      split at h
      · cases h
      · cases hmore : resolveAttributes start bindings (n :: seen) rest with
        | error e => rw [hmore] at h; cases h
        | ok more =>
          rw [hmore] at h
          cases h
          obtain rfl | ha := List.mem_cons.1 ha
          · rw [localName_attributeName hn]
            exact brace_not_mem_splitName hname
          · exact ih hrest hmore a ha

end Builder

/-- The names of an open element and of what it holds so far have no closing brace. -/
structure Frame.Named (f : Frame) : Prop where
  name : '\x7d' ∉ f.name.localName.toList
  attributes : ∀ a ∈ f.attributes, '\x7d' ∉ a.name.localName.toList
  children : ∀ c ∈ f.children, c.IsNamed

theorem Frame.Named.isNamed_element {f : Frame} (h : f.Named) : f.element.IsNamed :=
  Element.everywhere_mk.2
    ⟨⟨h.name, h.attributes⟩, fun c hc => h.children c (List.mem_reverse.1 hc)⟩

namespace Builder

/-- The names in a tree under construction have no closing brace. -/
structure Named (b : Builder) : Prop where
  frames : ∀ f ∈ b.frames, f.Named
  root : ∀ e ∈ b.root, e.IsNamed

theorem named_start : start.Named where
  frames f hf := by cases hf
  root e he := by cases he

variable {b : Builder}

theorem Named.place (h : b.Named) {e : Element} (he : e.IsNamed) : (b.place e).Named := by
  rw [Builder.place]
  split
  · exact ⟨h.frames, fun e' he' => Option.mem_some.1 he' ▸ he⟩
  · next f rest hframes =>
    obtain ⟨hf, hrest⟩ := List.forall_mem_cons.1 (hframes ▸ h.frames)
    refine ⟨List.forall_mem_cons.2 ⟨⟨hf.name, hf.attributes, ?_⟩, hrest⟩, h.root⟩
    exact List.forall_mem_cons.2 ⟨he, hf.children⟩

theorem Named.addChar (h : b.Named) (c : Char) : (b.addChar c).Named := by
  rw [Builder.addChar]
  split
  · exact h
  · next f rest hframes =>
    obtain ⟨hf, hrest⟩ := List.forall_mem_cons.1 (hframes ▸ h.frames)
    split
    · exact ⟨List.forall_mem_cons.2 ⟨⟨hf.name, hf.attributes, hf.children⟩, hrest⟩, h.root⟩
    · exact h

theorem Named.openTag {b' : Builder} (h : b.Named) {start : Nat} {name : String}
    {raw : List RawAttribute} {isEmpty : Bool} (htag : OpenTag.Clean ⟨name, raw⟩)
    (hopen : b.openTag start name raw isEmpty = .ok b') : b'.Named := by
  rw [Builder.openTag] at hopen
  simp only [bind, Except.bind] at hopen
  split at hopen
  · cases hopen
  next pair hread =>
  split at hopen
  · cases hopen
  next attributes hresolve =>
  split at hopen
  · cases hopen
  next n hname =>
  have hframe : Frame.Named ⟨name, n, attributes, pair.2, [], []⟩ := by
    refine ⟨?_, localNames_of_resolveAttributes (fun p hp => ?_) hresolve, nofun⟩
    · rw [localName_elementName hname]
      exact brace_not_mem_splitName htag.1
    · obtain ⟨a, ha, hap⟩ := exists_mem_of_readAttributes hread p hp
      exact hap ▸ htag.2 a ha
  cases hopen
  split
  · exact h.place hframe.isNamed_element
  · exact ⟨List.forall_mem_cons.2 ⟨hframe, h.frames⟩, h.root⟩

theorem Named.closeTag {b' : Builder} (h : b.Named) {start : Nat} {name : String}
    (hclose : b.closeTag start name = .ok b') : b'.Named := by
  rw [Builder.closeTag] at hclose
  split at hclose
  · cases hclose
  · next f rest hframes =>
    obtain ⟨hf, hrest⟩ := List.forall_mem_cons.1 (hframes ▸ h.frames)
    split at hclose
    · cases hclose
      exact Named.place (b := { b with frames := rest }) ⟨hrest, h.root⟩ hf.isNamed_element
    · cases hclose

theorem Named.take {b' : Builder} {t : Token} (h : b.Named) (ht : t.kind.Clean)
    (htake : b.take t = .ok b') : b'.Named := by
  rw [Builder.take] at htake
  split at htake
  · cases htake
    exact h.addChar _
  · split at htake
    · cases htake
      exact h.addChar _
    · cases htake
  · split at htake
    · cases htake
      exact h.addChar _
    · cases htake
  · next hkind =>
    rw [hkind] at ht
    exact h.openTag ht htake
  · exact h.closeTag htake
  · split at htake
    · cases htake
    · split at htake
      · cases htake
        exact ⟨h.frames, h.root⟩
      · cases htake
  · split at htake
    · cases htake
    · split at htake
      · cases htake
        exact ⟨h.frames, h.root⟩
      · cases htake
  · cases htake

theorem Named.takeAll {fuel : Nat} {openNames : List String} {outer : Option Nat}
    {tokens : List Token} {b' : Builder} (h : b.Named) (htokens : ∀ t ∈ tokens, t.kind.Clean)
    (htake : b.takeAll fuel openNames outer tokens = .ok b') : b'.Named := by
  fun_induction Builder.takeAll fuel openNames outer b tokens generalizing b'
  case case1 =>
    cases htake
    exact h
  case case3 hnext ih =>
    obtain ⟨ht, hrest⟩ := List.forall_mem_cons.1 htokens
    refine ih (h.take ?_ hnext) hrest htake
    exact ht
  case case8 hinner _ hcontent ihInner ih =>
    -- the text of an entity is content of its own
    have hclean := clean_of_mem_tokenizeContent hcontent
    exact ih (ihInner h hclean hinner) (List.forall_mem_cons.1 htokens).2 htake
  all_goals cases htake

end Builder

/-- The names in a tree that is read have no closing brace. -/
theorem isNamed_of_readChars {s : List Char} {root : Element} (h : readChars s = .ok root) :
    root.IsNamed := by
  rw [readChars] at h
  dsimp only at h
  split at h
  · cases h
  next b htake =>
  have hb : b.Named :=
    Builder.Named.takeAll Builder.named_start (clean_of_mem_tokenize s) htake
  split at h
  · cases h
  · cases h
  · cases h
  · split at h
    · next hroot =>
      split at h
      · cases h
      · cases h
        exact hb.root _ hroot
    · cases h

end LayoutTree.Xml
