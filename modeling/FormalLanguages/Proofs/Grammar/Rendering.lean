import FormalLanguages.Grammar.Notation
import FormalLanguages.Proofs.Text.Cutting
import Mathlib.Tactic.MkIffOfInductiveProp
/-!
# Reading what was written

A grammar is written with an arrow, bars and spaces, and read by looking for them again. Names without arrows and
symbols without blanks and bars can be told from them, whatever else they hold: a name may hold bars and blanks,
and a symbol may be an arrow. The trap is an alternative of a single symbol. No space is written for it, so it is
divided into tokens when it is read.

Results:
* `Alternative.Plain.reread_eq`: a written alternative is read back.
* `GrammarLine.read_of_arrow`: what a line with a name and an arrow is read as.
* `GrammarLine.read_renderDeclaration`, `rereadTogether_eq`: a written line is read as a declaration of the same name,
  alternative by alternative.
* `GrammarReading.foldl_addLine_declarations`: declarations of distinct names are taken over in their order.
* `Grammar.InLine.read_render`: a grammar in lines of its own is read again with the same nonterminals.
* `Grammar.read_render_of_writable`: a written grammar is read back as it is.
-/
namespace FormalLanguages

/-- A symbol that is found again between spaces and bars. -/
@[mk_iff]
structure Symbol.Plain (s : Symbol) : Prop where
  ne_nil : s.toList ≠ []
  no_blank : s.toList.any Text.isBlank = false
  no_bar : '|' ∉ s.toList
  not_epsilon : isEpsilon s.toList = false

instance (s : Symbol) : Decidable (Symbol.Plain s) := decidable_of_iff' _ (Symbol.plain_iff s)

/-- A name that is found again in front of an arrow. -/
@[mk_iff]
structure Symbol.PlainName (A : Symbol) : Prop where
  solid : Text.Solid A.toList
  no_break : A.toList.any Text.isLineBreak = false
  no_arrow : ¬ Text.HasArrow A.toList

instance (A : Symbol) : Decidable (Symbol.PlainName A) := decidable_of_iff' _ (Symbol.plainName_iff A)

/-- A symbol without blanks and bars. -/
def Symbol.Apart (s : Symbol) : Prop := ∀ c ∈ s.toList, Text.isBlank c = false ∧ c ≠ '|'

/-- A symbol that stands on the line on which it is written, with its ends where they can be seen. -/
structure Symbol.InLine (s : Symbol) : Prop where
  solid : Text.Solid s.toList
  no_break : s.toList.any Text.isLineBreak = false

/-- An alternative that is made of such symbols. -/
structure Alternative.InLine (α : Alternative) : Prop where
  ne_nil : α ≠ []
  symbols : ∀ s ∈ α, Symbol.InLine s

/-- An alternative that is `ε`, or made of plain symbols. -/
def Alternative.Spelled (α : Alternative) : Prop :=
  α = [epsilon] ∨ α ≠ [] ∧ ∀ s ∈ α, Symbol.Plain s

/-- An alternative that is `ε`, or made of plain symbols; one that is made of a single symbol has to be read
as one token. -/
def Alternative.Plain (α : Alternative) : Prop :=
  α = [epsilon] ∨
    α ≠ [] ∧ (∀ s ∈ α, Symbol.Plain s) ∧ (α.length = 1 → ∀ s ∈ α, Alternative.read s.toList = [s])

instance (α : Alternative) : Decidable α.Plain := inferInstanceAs (Decidable (_ ∨ _))

/-- Each nonterminal has a line of its own where the grammar is written. -/
def Grammar.InLine (g : Grammar) : Prop :=
  ∀ e ∈ g.entries, Symbol.PlainName e.1 ∧ e.2 ≠ [] ∧ ∀ α ∈ e.2, Alternative.InLine α

/-- All names and alternatives stand apart where they are written, and no nonterminal is without one. -/
def Grammar.Spelled (g : Grammar) : Prop :=
  ∀ e ∈ g.entries, Symbol.PlainName e.1 ∧ e.2 ≠ [] ∧ ∀ α ∈ e.2, Alternative.Spelled α

/-- All names and alternatives are found again where they are written, and no nonterminal is without one. -/
def Grammar.Writable (g : Grammar) : Prop :=
  ∀ e ∈ g.entries, Symbol.PlainName e.1 ∧ e.2 ≠ [] ∧ ∀ α ∈ e.2, Alternative.Plain α

instance (g : Grammar) : Decidable g.Writable := inferInstanceAs (Decidable (∀ e ∈ _, _))

/-- The alternative as it is read once it is written. -/
def Alternative.reread (α : Alternative) : Alternative := read α.render.toList

/-- The alternatives of a nonterminal as they are read once they are written in one line. -/
def rereadTogether (alternatives : List Alternative) : List Alternative :=
  ((' ' :: [' ', '|', ' '].intercalate (alternatives.map fun α => α.render.toList)).splitOn '|').map
    Alternative.read

/-- The grammar with its alternatives as they are read once they are written. -/
def Grammar.reread (g : Grammar) : Grammar := g.mapValues fun _ => List.map Alternative.reread

/-! ## Symbols -/

namespace Symbol.Plain

variable {s : Symbol}

theorem not_isBlank (hs : Symbol.Plain s) {c : Char} (hc : c ∈ s.toList) : Text.isBlank c = false :=
  Text.eq_false_of_any hs.no_blank hc

theorem apart (hs : Symbol.Plain s) : s.Apart := fun _ hc => ⟨hs.not_isBlank hc, fun h => hs.no_bar (h ▸ hc)⟩

theorem solid (hs : Symbol.Plain s) : Text.Solid s.toList :=
  .of_no_blank hs.ne_nil fun _ hc => hs.not_isBlank hc

theorem ofChars_toList (hs : Symbol.Plain s) : Symbol.ofChars s.toList = s := by
  rw [Symbol.ofChars, if_neg (by simp [hs.not_epsilon]), String.ofList_toList]

theorem ne_epsilon (hs : Symbol.Plain s) : s ≠ epsilon := by
  rintro rfl
  exact absurd hs.not_epsilon (by decide)

theorem inLine (hs : Symbol.Plain s) : Symbol.InLine s where
  solid := hs.solid
  no_break := by simpa using fun _ hc => Text.not_isLineBreak_of_not_isBlank (hs.not_isBlank hc)

end Symbol.Plain

theorem Symbol.PlainName.inLine {A : Symbol} (hA : Symbol.PlainName A) : Symbol.InLine A := ⟨hA.solid, hA.no_break⟩

theorem Symbol.apart_epsilon : Symbol.Apart epsilon := List.forall_mem_singleton.mpr (by decide)

theorem Symbol.inLine_epsilon : Symbol.InLine epsilon := ⟨by decide, by decide⟩

/-! ## Alternatives -/

namespace Alternative

variable {α : Alternative}

/-- Blanks around an alternative are not read. -/
theorem read_trim (text : List Char) : read (Text.trim text) = read text := by
  unfold read
  rw [Text.trim_trim]

theorem toList_render (α : Alternative) : α.render.toList = [' '].intercalate (α.map String.toList) :=
  String.toList_intercalate

theorem InLine.solid (hα : α.InLine) : Text.Solid α.render.toList := by
  rw [toList_render]
  exact .intercalate (by simpa using hα.ne_nil) (List.forall_mem_map.mpr fun s hs => (hα.symbols s hs).solid)

theorem InLine.no_break (hα : α.InLine) {c : Char} (hc : c ∈ α.render.toList) : Text.isLineBreak c = false := by
  rw [toList_render] at hc
  rcases Text.mem_of_mem_intercalate hc with hc | ⟨l, hl, hc⟩
  · rw [List.mem_singleton.mp hc]
    decide
  · obtain ⟨s, hs, rfl⟩ := List.mem_map.mp hl
    exact Text.eq_false_of_any (hα.symbols s hs).no_break hc

/-- Two symbols or more are written as words, and read as words. -/
theorem read_render_of_two_le (hlen : 2 ≤ α.length) (hα : ∀ s ∈ α, Symbol.Plain s) :
    read α.render.toList = α := by
  obtain ⟨s, t, β, rfl⟩ : ∃ s t β, α = s :: t :: β := by
    match α, hlen with
    | s :: t :: β, _ => exact ⟨s, t, β, rfl⟩
  have hspace : (render (s :: t :: β)).toList.any Text.isBlank = true :=
    List.any_eq_true.mpr ⟨' ', by simp [toList_render, List.intercalate_cons_cons], by decide⟩
  have hwords : Text.words (render (s :: t :: β)).toList = (s :: t :: β).map String.toList := by
    rw [toList_render]
    exact Text.words_intercalate <| List.forall_mem_map.mpr fun s hs =>
      ⟨(hα s hs).ne_nil, fun _ hc => (hα s hs).not_isBlank hc⟩
  have hspell : ((s :: t :: β).map String.toList).map Symbol.ofChars = s :: t :: β :=
    Text.map_map_eq_self fun s hs => (hα s hs).ofChars_toList
  have hfilter : (s :: t :: β).filter (· ≠ epsilon) = s :: t :: β :=
    List.filter_eq_self.mpr fun s hs => by simpa using (hα s hs).ne_epsilon
  simp only [read, (InLine.mk (by simp) fun s hs => (hα s hs).inLine).solid.trim_eq, hspace, if_true, hwords, hspell,
    hfilter]

theorem Plain.spelled (hα : Plain α) : α.Spelled := hα.imp_right fun h => ⟨h.1, h.2.1⟩

/-- A written alternative is read back. -/
theorem Plain.reread_eq (hα : Plain α) : α.reread = α := by
  rcases hα with rfl | ⟨hne, hplain, hone⟩
  · decide +kernel
  · match α, hne with
    | [s], _ => simpa [reread, render] using hone rfl s (by simp)
    | s :: t :: α, _ => exact read_render_of_two_le (by simp) hplain

theorem Spelled.inLine (hα : Spelled α) : α.InLine := by
  rcases hα with rfl | ⟨hne, hplain⟩
  · exact ⟨by simp, fun s hs => List.mem_singleton.mp hs ▸ Symbol.inLine_epsilon⟩
  · exact ⟨hne, fun s hs => (hplain s hs).inLine⟩

theorem Spelled.no_bar (hα : Spelled α) : '|' ∉ α.render.toList := fun hc => by
  rw [toList_render] at hc
  rcases Text.mem_of_mem_intercalate hc with hc | ⟨l, hl, hc⟩
  · exact absurd hc (by decide)
  · obtain ⟨s, hs, rfl⟩ := List.mem_map.mp hl
    rcases hα with rfl | ⟨-, hplain⟩
    · obtain rfl : s = epsilon := by simpa using hs
      exact absurd hc (by decide)
    · exact (hplain s hs).no_bar hc

end Alternative

/-! ## Lines -/

section Lines

variable {A : Symbol} {alternatives : List Alternative}

theorem toList_renderDeclaration (A : Symbol) (alternatives : List Alternative) :
    (renderDeclaration A alternatives).toList = A.toList ++ ' ' :: '-' :: '>' ::
      ' ' :: [' ', '|', ' '].intercalate (alternatives.map fun α => α.render.toList) := by
  simp [renderDeclaration, String.toList_intercalate, Function.comp_def]

/-- What is written behind the arrow is read alternative by alternative. -/
theorem rereadTogether_eq (hne : alternatives ≠ []) (h : ∀ α ∈ alternatives, Alternative.Spelled α) :
    rereadTogether alternatives = alternatives.map Alternative.reread := by
  have htexts : (alternatives.map fun α => α.render.toList) ≠ [] := by simpa using hne
  have hcells := Text.cells_intercalate htexts
    (List.forall_mem_map.mpr fun α hα => ⟨(h α hα).inLine.solid, (h α hα).no_bar⟩)
  have hread (pieces : List (List Char)) :
      pieces.map Alternative.read = (pieces.map Text.trim).map Alternative.read := by
    simp only [List.map_map, Function.comp_def, Alternative.read_trim]
  rw [rereadTogether, hread, hcells, List.map_map]
  rfl

/-- A line that begins with a name and an arrow is read as a declaration of this name. -/
theorem GrammarLine.read_of_arrow {before arrow : List Char} (hA : Symbol.PlainName A)
    (hbefore : ∀ c ∈ before, Text.isBlank c = true) (harrow : arrow = "->".toList ∨ arrow = "→".toList)
    (rest : List Char) : GrammarLine.read (A.toList ++ before ++ arrow ++ rest) =
      .declaration A ((rest.splitOn '|').map Alternative.read) := by
  have hcut : Text.splitArrow (A.toList ++ before ++ arrow ++ rest) = some (A.toList ++ before, rest) :=
    Text.splitArrow_eq_some_iff.mpr ⟨fun h => hA.no_arrow (h.of_append_blanks hbefore), by
      rcases harrow with rfl | rfl <;> simp⟩
  simp only [GrammarLine.read, hcut, hA.solid.trim_append_blanks hbefore, String.ofList_toList]
  exact if_neg (by simp [hA.solid.ne_nil])

/-- A written line is read as a declaration of the same name. -/
theorem GrammarLine.read_renderDeclaration (hA : Symbol.PlainName A) (alternatives : List Alternative) :
    GrammarLine.read (renderDeclaration A alternatives).toList = .declaration A (rereadTogether alternatives) := by
  have hline := read_of_arrow hA Text.isBlank_of_mem_space (Or.inl rfl)
    (' ' :: [' ', '|', ' '].intercalate (alternatives.map fun α => α.render.toList))
  rw [toList_renderDeclaration, rereadTogether, ← hline]
  simp

theorem solid_renderDeclaration (hA : Symbol.PlainName A) (hne : alternatives ≠ [])
    (h : ∀ α ∈ alternatives, Alternative.InLine α) :
    Text.Solid (renderDeclaration A alternatives).toList := by
  have hcells : Text.Solid ([' ', '|', ' '].intercalate (alternatives.map fun α => α.render.toList)) :=
    .intercalate (by simpa using hne) (List.forall_mem_map.mpr fun α hα => (h α hα).solid)
  have hline := hA.solid.append hcells [' ', '-', '>', ' ']
  rw [List.append_assoc] at hline
  rw [toList_renderDeclaration]
  exact hline

theorem no_break_renderDeclaration (hA : Symbol.PlainName A)
    (h : ∀ α ∈ alternatives, Alternative.InLine α) {c : Char}
    (hc : c ∈ (renderDeclaration A alternatives).toList) : Text.isLineBreak c = false := by
  have harrow : [' ', '-', '>', ' '].any Text.isLineBreak = false := by decide
  have hbar : [' ', '|', ' '].any Text.isLineBreak = false := by decide
  rw [toList_renderDeclaration] at hc
  rcases List.mem_append.mp hc with hc | hc
  · exact Text.eq_false_of_any hA.no_break hc
  rcases List.mem_append.mp (show c ∈ [' ', '-', '>', ' '] ++ _ from hc) with hc | hc
  · exact Text.eq_false_of_any harrow hc
  rcases Text.mem_of_mem_intercalate hc with hc | ⟨cell, hcell, hc⟩
  · exact Text.eq_false_of_any hbar hc
  · obtain ⟨α, hα, rfl⟩ := List.mem_map.mp hcell
    exact (h α hα).no_break hc

end Lines

/-! ## Grammars -/

/-- A nonterminal that is new comes last. -/
theorem Grammar.entries_add {g : Grammar} {A : Symbol} (hA : A ∉ g.nonterminals)
    (alternatives : List Alternative) : (g.add A alternatives).entries = g.entries ++ [(A, alternatives)] := by
  have hget : g.getD A [] = [] := by
    cases h : g.get? A with
    | none => rw [OrderedMap.getD, h, Option.getD_none]
    | some _ => exact absurd (OrderedMap.mem_keys_iff.mpr ⟨_, h⟩) hA
  rw [Grammar.add, OrderedMap.alter, hget, List.nil_append, OrderedMap.entries_insert_of_not_mem hA]

/-- Declarations of distinct names are taken over in their order. -/
theorem GrammarReading.foldl_addLine_declarations (es : List (Symbol × List Alternative))
    (r : GrammarReading) {g : Grammar} (hg : g.entries = r.grammar.entries ++ es) :
    (es.map fun e => GrammarLine.declaration e.1 e.2).foldl addLine r =
      { grammar := g, start := r.start.or (es.head?.map Prod.fst), skipped := r.skipped } := by
  induction es generalizing r with
  | nil =>
    obtain rfl : g = r.grammar := OrderedMap.ext_entries (by rw [hg, List.append_nil])
    simp
  | cons e es ih =>
    obtain ⟨A, alternatives⟩ := e
    -- the name is not among those before it
    have hA : A ∉ r.grammar.nonterminals := fun hmem => by
      have hdistinct := g.distinct
      rw [hg, List.map_append] at hdistinct
      exact (List.nodup_append.mp hdistinct).2.2 A hmem A (by simp) rfl
    rw [List.map_cons, List.foldl_cons, ih (r.addLine (.declaration A alternatives))]
    · simp [addLine]
    · rw [addLine, Grammar.entries_add hA, hg, List.append_assoc]
      rfl

namespace Grammar

variable {g : Grammar}

/-- The lines of a written grammar are declarations of its nonterminals. -/
theorem readLines_render_of_inLine (hg : g.InLine) :
    readLines g.render = g.entries.map fun e => .declaration e.1 (rereadTogether e.2) := by
  have hlines : Text.lines g.render.toList = g.entries.map fun e => (renderDeclaration e.1 e.2).toList := by
    rw [render, String.toList_intercalate, List.map_map]
    refine Text.lines_intercalate (List.forall_mem_map.mpr fun e he => ?_)
    obtain ⟨hA, hne, h⟩ := hg e he
    exact ⟨solid_renderDeclaration hA hne h, fun c hc => no_break_renderDeclaration hA h hc⟩
  rw [readLines, hlines, List.map_map]
  exact List.map_congr_left fun e he => GrammarLine.read_renderDeclaration (hg e he).1 e.2

/-- A grammar in lines of its own is read again with the same nonterminals: the first one is the start symbol, and no
line is skipped. -/
theorem InLine.read_render (hg : g.InLine) {start : Symbol} (hstart : g.nonterminals.head? = some start) :
    read g.render =
      { grammar := g.mapValues fun _ => rereadTogether, start := some start, skipped := [] } := by
  have hnames : (g.mapValues fun _ => rereadTogether).entries.head?.map Prod.fst = some start := by
    rw [← List.head?_map, ← hstart]
    exact congrArg List.head? (OrderedMap.keys_mapValues ..)
  have hlines : readLines g.render =
      (g.mapValues fun _ => rereadTogether).entries.map fun e => .declaration e.1 e.2 := by
    rw [readLines_render_of_inLine hg, OrderedMap.mapValues, List.map_map]
    rfl
  rw [read, hlines, GrammarReading.foldl_addLine_declarations _ {} (by rfl), hnames]
  rfl

theorem Spelled.inLine (hg : g.Spelled) : g.InLine := fun e he =>
  have ⟨hA, hne, h⟩ := hg e he
  ⟨hA, hne, fun α hα => (h α hα).inLine⟩

theorem Spelled.mapValues_rereadTogether (hg : g.Spelled) :
    (g.mapValues fun _ => rereadTogether) = g.reread :=
  OrderedMap.ext_entries (List.map_congr_left fun e he =>
    congrArg (Prod.mk e.1) (rereadTogether_eq (hg e he).2.1 (hg e he).2.2))

theorem readLines_render_of_spelled (hg : g.Spelled) :
    readLines g.render = g.reread.entries.map fun e => .declaration e.1 e.2 := by
  rw [readLines_render_of_inLine hg.inLine, ← hg.mapValues_rereadTogether, OrderedMap.mapValues, List.map_map]
  rfl

theorem Writable.spelled (hg : g.Writable) : g.Spelled := fun e he =>
  have ⟨hA, hne, h⟩ := hg e he
  ⟨hA, hne, fun α hα => (h α hα).spelled⟩

theorem Writable.reread_eq (hg : g.Writable) : g.reread = g := by
  have hsame : ∀ e ∈ g.entries, (e.1, e.2.map Alternative.reread) = e := fun e he =>
    Prod.ext rfl ((List.map_congr_left fun α hα => ((hg e he).2.2 α hα).reread_eq).trans (List.map_id _))
  exact OrderedMap.ext_entries ((List.map_congr_left hsame).trans (List.map_id _))

/-- The lines of a written grammar are its declarations. -/
theorem readLines_render (hg : g.Writable) :
    readLines g.render = g.entries.map fun e => .declaration e.1 e.2 := by
  rw [readLines_render_of_spelled hg.spelled, hg.reread_eq]

/-- A written grammar is read back as it is: with its nonterminals and alternatives in their order, the first
nonterminal as start, no line skipped and no error. -/
theorem read_render_of_writable (hg : g.Writable) (hne : g.nonterminals ≠ []) :
    ∃ A, g.nonterminals.head? = some A ∧
      read g.render = { grammar := g, start := some A, skipped := [] } ∧
      (read g.render).error? = none ∧ parse g.render = .ok (g, A) := by
  obtain ⟨A, hA⟩ : ∃ A, g.nonterminals.head? = some A := Option.ne_none_iff_exists'.mp (by simpa using hne)
  have hread : read g.render = { grammar := g, start := some A, skipped := [] } := by
    rw [read, readLines_render hg, GrammarReading.foldl_addLine_declarations g.entries {} (by rfl)]
    simpa [nonterminals, OrderedMap.keys] using hA
  refine ⟨A, hA, hread, ?_, ?_⟩
  · rw [hread]
    rfl
  · rw [parse, hread]

/-- A name with a bar and blanks, a name with a hyphen at its end, and symbols that are arrows. -/
def arrows : Grammar :=
  .ofList [("a | b", [["->", "→"], ["id"], [epsilon]]), ("n-", [[">", "n-", "->b"], ["=="], ["A₀'"]])]

theorem arrows_read_render : arrows.Writable ∧ arrows.nonterminals ≠ [] ∧
    ∃ A, arrows.nonterminals.head? = some A ∧
      read arrows.render = { grammar := arrows, start := some A, skipped := [] } ∧
      (read arrows.render).error? = none ∧ parse arrows.render = .ok (arrows, A) :=
  ⟨by decide +kernel, by decide, read_render_of_writable (by decide +kernel) (by decide)⟩

end Grammar

end FormalLanguages
