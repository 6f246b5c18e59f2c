import LayoutTree.Proofs.Layout.NodeLine
import LayoutTree.Proofs.Layout.Placing
import LayoutTree.Proofs.Layout.Recovery

/-!
# Printed forests

A forest as text: one line for each node, before the lines of the nodes below it and indented by its
depth (`Descriptor.text`). If all names are identifiers and no property stands for a file, reading
the text gives back the types, the properties in order and the nodes below (`parse_text`). What is
left behind is what the text does not hold: groups, and the files that nodes come from.
-/

namespace LayoutTree

open LayoutTree.Text LayoutTree.Layout

/-! ## Identifiers -/

/-- Whether a character can stand in an identifier: a letter or digit of ASCII, an underscore or a
dot. -/
def isIdentifierChar (c : Char) : Bool :=
  let n := c.toNat
  (48 ≤ n && n ≤ 57) || (65 ≤ n && n ≤ 90) || (97 ≤ n && n ≤ 122) || c == '_' || c == '.'

/-- An identifier is not empty and made of letters, digits, underscores and dots. -/
structure IsIdentifier (s : String) : Prop where
  ne_nil : s.toList ≠ []
  chars : ∀ c ∈ s.toList, isIdentifierChar c = true

instance (s : String) : Decidable (IsIdentifier s) :=
  decidable_of_iff (s.toList ≠ [] ∧ s.toList.all isIdentifierChar = true)
    ⟨fun h => ⟨h.1, List.all_eq_true.1 h.2⟩, fun h => ⟨h.ne_nil, List.all_eq_true.2 h.chars⟩⟩

theorem toNat_lt_of_isIdentifierChar {c : Char} (h : isIdentifierChar c = true) :
    c.toNat < 128 := by
  simp only [isIdentifierChar, Bool.or_eq_true, Bool.and_eq_true, decide_eq_true_eq, beq_iff_eq]
    at h
  rcases h with (hletter | rfl) | rfl
  · omega
  · decide
  · decide

theorem isName_of_isIdentifier {s : String} (h : IsIdentifier s) : IsName s.toList := by
  have hascii : ∀ n : Fin 128, isIdentifierChar (Char.ofNat n) = true →
      isNameChar (Char.ofNat n) = true := by decide +kernel
  refine ⟨h.ne_nil, fun c hc => ?_⟩
  have hchar := h.chars c hc
  have hname := hascii ⟨c.toNat, toNat_lt_of_isIdentifierChar hchar⟩
  rw [Char.ofNat_toNat] at hname
  exact hname hchar

/-! ## Printing -/

namespace Descriptor

mutual

/-- The lines of a node and of the nodes below it. -/
def printed (depth : Nat) : Descriptor → List (List Char)
  | ⟨typeName, properties, _, children, _⟩ =>
    TextFormat.descriptionLine depth typeName properties :: printedAll (depth + 1) children

/-- The lines of several nodes at a depth. -/
def printedAll (depth : Nat) : List Descriptor → List (List Char)
  | [] => []
  | d :: ds => printed depth d ++ printedAll depth ds

end

/-- A forest as text. -/
def text (ds : List Descriptor) : String :=
  String.ofList (unlines (printedAll 0 ds))

mutual

/-- What a printed node is read as: it has no group and comes from the file. -/
def readBack (source : String) : Descriptor → Descriptor
  | ⟨typeName, properties, _, children, _⟩ =>
    ⟨typeName, properties, none, readBackAll source children, some source⟩

/-- What several printed nodes are read as. -/
def readBackAll (source : String) : List Descriptor → List Descriptor
  | [] => []
  | d :: ds => readBack source d :: readBackAll source ds

end

/-- A node that can be printed: names are identifiers, and no property stands for a file. Values are
any texts, but of the characters that end a line only those that have an escape can occur. -/
structure IsPrintable (d : Descriptor) : Prop where
  typeName : IsIdentifier d.typeName
  names : ∀ p ∈ d.properties, IsIdentifier p.name
  includes : ∀ p ∈ d.properties, p.key ∉ TextFormat.includeNames.map folded
  contents : ∀ p ∈ d.properties, p.key = folded TextFormat.contentName → ∀ content ∈ p.value,
    namesChildren content = false
  breaks : ∀ p ∈ d.properties, ∀ value ∈ p.value, ∀ c ∈ value.toList, isLineBreak c = true →
    c = '\n' ∨ c = '\r'

instance (d : Descriptor) : Decidable d.IsPrintable :=
  decidable_of_iff (IsIdentifier d.typeName ∧ (∀ p ∈ d.properties, IsIdentifier p.name) ∧
      (∀ p ∈ d.properties, p.key ∉ TextFormat.includeNames.map folded) ∧
      (∀ p ∈ d.properties, p.key = folded TextFormat.contentName → ∀ content ∈ p.value,
        namesChildren content = false) ∧
      ∀ p ∈ d.properties, ∀ value ∈ p.value,
        (value.toList.all fun c => decide (isLineBreak c = true → c = '\n' ∨ c = '\r')) = true)
    ⟨fun h => ⟨h.1, h.2.1, h.2.2.1, h.2.2.2.1,
        by simpa only [List.all_eq_true, decide_eq_true_eq] using h.2.2.2.2⟩,
      fun h => ⟨h.typeName, h.names, h.includes, h.contents,
        by simpa only [List.all_eq_true, decide_eq_true_eq] using h.breaks⟩⟩

theorem IsPrintable.isPlainNode {d : Descriptor} (h : d.IsPrintable) :
    TextFormat.IsPlainNode d.typeName d.properties :=
  ⟨isName_of_isIdentifier h.typeName, fun p hp => isName_of_isIdentifier (h.names p hp), h.includes,
    h.contents, h.breaks⟩

end Descriptor

/-! ## Reading the text -/

namespace TextFormat

/-- A reading that has placed nodes and established nothing else. -/
def Reading.placed (o : Outline) : Reading := ⟨none, none, .empty, o, none⟩

variable (env : Surroundings) (file : FilePath)

mutual

/-- **The lines of a printed node** place it with all below it, and log nothing. The numbers of the
lines play no part, as no line is skipped. -/
theorem readLines_printed : ∀ (d : Descriptor) (depth number : Nat) (o : Outline),
    (∀ e ∈ d.walk, IsPlainNode e.typeName e.properties) →
      readLines env file number (.placed o) (d.printed depth) =
        (.placed (o.place depth (d.readBack file.text)), [])
  | ⟨typeName, properties, group, children, source⟩, depth, number, o, h => by
    rw [Descriptor.walk] at h
    have hself : IsPlainNode typeName properties := h _ List.mem_cons_self
    have hline : readLine env file (.placed o) (descriptionLine depth typeName properties) =
        ⟨.placed (o.attach depth ⟨typeName, properties, none, [], some file.text⟩), [], none⟩ :=
      readLine_descriptionLine hself env file (.placed o) rfl depth
    rw [Descriptor.printed, readLines, hline, Descriptor.readBack, Outline.place]
    dsimp only
    rw [readLines_printedAll children _ _ _ fun e he => h e (List.mem_cons_of_mem _ he)]
    rfl

/-- **The lines of several printed nodes** place them with all below them, and log nothing. -/
theorem readLines_printedAll : ∀ (ds : List Descriptor) (depth number : Nat) (o : Outline),
    (∀ e ∈ Descriptor.walkAll ds, IsPlainNode e.typeName e.properties) →
      readLines env file number (.placed o) (Descriptor.printedAll depth ds) =
        (.placed (o.placeAll depth (Descriptor.readBackAll file.text ds)), [])
  | [], depth, number, o, _ => by
    rw [Descriptor.printedAll, Descriptor.readBackAll, Outline.placeAll]
    rfl
  | d :: ds, depth, number, o, h => by
    rw [Descriptor.walkAll] at h
    rw [Descriptor.printedAll, readLines_append,
      readLines_printed d depth number o fun e he => h e (List.mem_append_left _ he)]
    dsimp only
    rw [readLines_printedAll ds depth _ _ fun e he => h e (List.mem_append_right _ he),
      Descriptor.readBackAll, Outline.placeAll]
    rfl

end

end TextFormat

namespace Descriptor

mutual

theorem no_break_printed : ∀ (d : Descriptor) (depth : Nat),
    (∀ e ∈ d.walk, TextFormat.IsPlainNode e.typeName e.properties) →
      ∀ line ∈ d.printed depth, ∀ c ∈ line, isLineBreak c = false
  | ⟨typeName, properties, group, children, source⟩, depth, h, line, hline => by
    rw [walk] at h
    rw [printed, List.mem_cons] at hline
    rcases hline with rfl | hline
    · exact TextFormat.no_break_descriptionLine (h _ List.mem_cons_self) depth
    · exact no_break_printedAll children (depth + 1)
        (fun e he => h e (List.mem_cons_of_mem _ he)) line hline

theorem no_break_printedAll : ∀ (ds : List Descriptor) (depth : Nat),
    (∀ e ∈ walkAll ds, TextFormat.IsPlainNode e.typeName e.properties) →
      ∀ line ∈ printedAll depth ds, ∀ c ∈ line, isLineBreak c = false
  | [], _, _, line, hline => by
    rw [printedAll] at hline
    cases hline
  | d :: ds, depth, h, line, hline => by
    rw [walkAll] at h
    rw [printedAll, List.mem_append] at hline
    rcases hline with hline | hline
    · exact no_break_printed d depth (fun e he => h e (List.mem_append_left _ he)) line hline
    · exact no_break_printedAll ds depth (fun e he => h e (List.mem_append_right _ he)) line hline

end

/-- **A printed text** is read as its nodes. -/
theorem readFile_text {ds : List Descriptor}
    (h : ∀ d ∈ walkAll ds, TextFormat.IsPlainNode d.typeName d.properties) (store : FileStore)
    (normalize : String → Except String String) (active : List Location) (file : FilePath) :
    TextFormat.readFile store normalize active file (text ds).toList =
      ([], readBackAll file.text ds) := by
  have hlines : Text.lines (text ds).toList = printedAll 0 ds := by
    rw [text, String.toList_ofList, lines_unlines (no_break_printedAll ds 0 h)]
  have hread : TextFormat.readLines
      (TextFormat.surroundings store normalize (TextFormat.readFile store normalize) active) file 0
      .start (printedAll 0 ds) =
        (.placed (Outline.empty.placeAll 0 (readBackAll file.text ds)), []) :=
    TextFormat.readLines_printedAll _ file ds 0 0 .empty h
  rw [TextFormat.readFile_eq, TextFormat.readWith, hlines, hread]
  exact congrArg (Prod.mk []) (Outline.forest_placeAll _)

/-! ## Reading the file -/

theorem normalizeNewlines_of_notMem {s : List Char} (h : '\r' ∉ s) : normalizeNewlines s = s := by
  induction s with
  | nil => rfl
  | cons c r ih =>
    obtain ⟨hc, hr⟩ := not_or.1 (mt List.mem_cons.2 h)
    rw [normalizeNewlines, ih hr]
    · exact fun _ heq _ => hc heq.symm
    · exact fun heq => hc heq.symm

theorem notMem_return_text {ds : List Descriptor}
    (h : ∀ d ∈ walkAll ds, TextFormat.IsPlainNode d.typeName d.properties) :
    '\r' ∉ (text ds).toList := by
  rw [text, String.toList_ofList, unlines]
  intro hmem
  obtain ⟨line, hline, hc⟩ := List.mem_flatMap.1 hmem
  rcases List.mem_append.1 hc with hc | hc
  · exact absurd (no_break_printedAll ds 0 h line hline _ hc) (by decide)
  · exact absurd (List.mem_singleton.1 hc) (by decide)

/-- A printed text starts with no byte order mark. -/
theorem dropByteOrderMark_text {ds : List Descriptor} (h : ∀ d ∈ walkAll ds, d.IsPrintable) :
    dropByteOrderMark (text ds).toList = (text ds).toList := by
  rw [text, String.toList_ofList]
  cases ds with
  | nil => rfl
  | cons d ds =>
    obtain ⟨typeName, properties, group, children, source⟩ := d
    rw [walkAll, walk] at h
    have hname : IsIdentifier typeName := (h _ List.mem_cons_self).typeName
    obtain ⟨c, rest, hc⟩ := List.exists_cons_of_ne_nil hname.ne_nil
    have hlt := toNat_lt_of_isIdentifierChar (hname.chars c (by simp [hc]))
    have htext : ∃ more,
        unlines (printedAll 0 (⟨typeName, properties, group, children, source⟩ :: ds)) =
          c :: more := by
      rw [printedAll, printed, TextFormat.descriptionLine, TextFormat.description, hc]
      exact ⟨_, rfl⟩
    obtain ⟨more, htext⟩ := htext
    rw [htext, dropByteOrderMark, if_neg (by omega)]

/-- **Printing and reading is the identity** but for groups and sources: the types, the properties
in order and the nodes below come back, and nothing is logged. -/
theorem parse_text {ds : List Descriptor} (h : ∀ d ∈ walkAll ds, d.IsPrintable)
    {store : FileStore} {file : FilePath} {loc : Location}
    (hfile : store.read file = .ok (loc, (text ds).toUTF8))
    (normalize : String → Except String String) :
    TextFormat.parse store normalize file = ([], .ok (readBackAll file.text ds)) := by
  have hplain : ∀ d ∈ walkAll ds, TextFormat.IsPlainNode d.typeName d.properties :=
    fun d hd => (h d hd).isPlainNode
  have hsource : Source.read store file = .ok (loc, (text ds).toList) := by
    simp only [Source.read, hfile, Source.decode_toUTF8,
      normalizeNewlines_of_notMem (notMem_return_text hplain), dropByteOrderMark_text h]
  simp only [TextFormat.parse, hsource, readFile_text hplain]

/-- Two nodes at the top and one below the first. A property without a value stands between two of
one name, and the values hold what the format writes with. -/
def quotedForest : List Descriptor :=
  [⟨"Panel", [⟨"Title", some "say \"hi\"; x = 1\r\n\\"⟩, ⟨"bold", none⟩, ⟨"title", some ""⟩], none,
      [⟨"ui.Label", [⟨"Content", some " \"a.txt\".\\\\n"⟩], some "Main", [], none⟩],
      some "other.txt"⟩,
    ⟨"Grupo", [], none, [], none⟩]

theorem parse_text_quotedForest :
    TextFormat.parse ⟨[(["a.txt"], .file (text quotedForest).toUTF8)], []⟩ .ok
        (.ofString "a.txt") =
      ([], .ok (readBackAll (FilePath.ofString "a.txt").text quotedForest)) :=
  have hfile : FileStore.read ⟨[(["a.txt"], .file (text quotedForest).toUTF8)], []⟩
      (.ofString "a.txt") = .ok (["a.txt"], (text quotedForest).toUTF8) := by rfl
  parse_text (by decide +kernel) hfile .ok

end Descriptor

end LayoutTree
