import FormalLanguages.Proofs.Grammar.Rendering
/-!
# Reading again what was read

A grammar that was read is written in names without arrows and in symbols without blanks and bars, so it is read
again line by line: with the same nonterminals in their order, the same start symbol and no line skipped. Its
alternatives need not be the same. A word between blanks may be no token, and where `ε` vanishes beside it, the
word is all that is written; no blank is left, and it is divided into tokens when it is read again.

Results:
* `Alternative.spelled_read`, `GrammarLine.of_read_eq_declaration`: what alternatives and lines are read as.
* `GrammarReading.sound_read`: what a text is read as.
* `Grammar.spelled_of_parse`: a grammar that was read is spelled in plain symbols.
* `Grammar.Spelled.reread_eq_iff`: which grammars are the same when they are read again.
* `Grammar.read_render_of_parse`: a grammar that was read is read again, and when it is the same.
* `Grammar.lone_word_not_reread`: it need not be the same.
-/
namespace FormalLanguages

/-! ## Alternatives -/

namespace Alternative

/-- The words of a text, or its tokens if it has no blank. -/
def parts (text : List Char) : List (List Char) :=
  if text.any Text.isBlank then Text.words text else Token.tokens text

theorem of_mem_parts {text part : List Char} (h : part ∈ parts text) :
    part ≠ [] ∧ ∀ c ∈ part, c ∈ text ∧ Text.isBlank c = false := by
  unfold parts at h
  split at h
  · exact Text.of_mem_words h
  · next hblank =>
    refine ⟨Token.ne_nil_of_mem_tokens h, fun c hc => ?_⟩
    have hmem : c ∈ text := Token.flatten_tokens text ▸ List.mem_flatten_of_mem h hc
    exact ⟨hmem, Text.eq_false_of_any (by simpa using hblank) hmem⟩

/-- A part of a text is `ε`, or it spells a plain symbol. -/
theorem plain_ofChars {text part : List Char} (hbar : '|' ∉ text) (h : part ∈ parts text)
    (hne : Symbol.ofChars part ≠ epsilon) : Symbol.Plain (Symbol.ofChars part) := by
  obtain ⟨hpart, hchars⟩ := of_mem_parts h
  unfold Symbol.ofChars at hne ⊢
  split at hne
  · exact absurd rfl hne
  · next hε =>
    rw [if_neg hε]
    constructor
    · simpa using hpart
    · simpa using fun c hc => (hchars c hc).2
    · simpa using fun hc => hbar (hchars '|' hc).1
    · simpa using hε

/-- The symbols that are read from a text, other than `ε`. -/
def visible (text : List Char) : List Symbol :=
  ((parts (Text.trim text)).map Symbol.ofChars).filter (· ≠ epsilon)

theorem read_eq (text : List Char) : read text = if visible text = [] then [epsilon] else visible text := by
  unfold read
  dsimp only
  rw [← parts, ← visible]
  cases visible text <;> rfl

/-- What is read from a text without bars is spelled in plain symbols. -/
theorem spelled_read {text : List Char} (hbar : '|' ∉ text) : (read text).Spelled := by
  rw [read_eq]
  split
  · exact Or.inl rfl
  · next hne =>
    refine Or.inr ⟨hne, fun s hs => ?_⟩
    obtain ⟨hmem, hs⟩ := List.mem_filter.mp hs
    obtain ⟨part, hpart, rfl⟩ := List.mem_map.mp hmem
    exact plain_ofChars (fun hc => hbar (Text.mem_of_mem_trim hc)) hpart (of_decide_eq_true hs)

/-- Of the alternatives in plain symbols, those of one symbol that is no token are not read back. -/
theorem Spelled.reread_eq_iff {α : Alternative} (hα : α.Spelled) :
    α.reread = α ↔ ∀ s, α = [s] → read s.toList = [s] := by
  constructor
  · rintro h s rfl
    simpa [reread, render] using h
  · intro h
    refine Plain.reread_eq (hα.imp_right fun hs => ⟨hs.1, hs.2, fun hlen s hs => ?_⟩)
    obtain ⟨t, rfl⟩ := List.length_eq_one_iff.mp hlen
    obtain rfl := List.mem_singleton.mp hs
    exact h s rfl

end Alternative

/-! ## Lines -/

/-- A declaration that is read from a line has a plain name, and alternatives in plain symbols. -/
theorem GrammarLine.of_read_eq_declaration {line : List Char} {A : Symbol} {alternatives : List Alternative}
    (hbreak : ∀ c ∈ line, Text.isLineBreak c = false) (h : read line = .declaration A alternatives) :
    Symbol.PlainName A ∧ alternatives ≠ [] ∧ ∀ α ∈ alternatives, α.Spelled := by
  unfold read at h
  split at h
  · cases h
  next left right hcut =>
  dsimp only at h
  split at h
  · cases h
  next hne =>
  cases h
  obtain ⟨harrow, hline⟩ := Text.splitArrow_eq_some_iff.mp hcut
  have hleft : ∀ c ∈ left, c ∈ line := fun c hc => by
    rcases hline with rfl | rfl <;> exact List.mem_append_left _ hc
  refine ⟨⟨?_, ?_, ?_⟩, ?_, ?_⟩
  · simpa using Text.Solid.of_trim (by simpa using hne)
  · simpa using fun c hc => hbreak c (hleft c (Text.mem_of_mem_trim hc))
  · simpa using fun hname => harrow (Text.HasArrow.of_isInfix hname (Text.trim_isInfix left))
  · simp
  · rintro α hα
    obtain ⟨cell, hcell, rfl⟩ := List.mem_map.mp hα
    exact Alternative.spelled_read (Text.not_mem_of_mem_splitOn hcell)

/-! ## Texts -/

theorem Grammar.nonterminals_add (g : Grammar) (A : Symbol) (alternatives : List Alternative) :
    (g.add A alternatives).nonterminals =
      if A ∈ g.nonterminals then g.nonterminals else g.nonterminals ++ [A] :=
  OrderedMap.keys_insert ..

/-- A grammar stays spelled in plain symbols when a declaration is added. -/
theorem Grammar.Spelled.add {g : Grammar} (hg : g.Spelled) {A : Symbol} {alternatives : List Alternative}
    (hA : Symbol.PlainName A) (hne : alternatives ≠ []) (h : ∀ α ∈ alternatives, α.Spelled) :
    (g.add A alternatives).Spelled := by
  rintro ⟨B, all⟩ he
  have hget := OrderedMap.mem_entries_iff.mp he
  rw [Grammar.add, OrderedMap.alter, OrderedMap.get?_insert] at hget
  split at hget
  · next hB =>
    subst hB
    cases hget
    refine ⟨hA, by simp [hne], List.forall_mem_append.mpr ⟨fun α hα => ?_, h⟩⟩
    -- an alternative that the nonterminal had before
    obtain ⟨old, hold⟩ := OrderedMap.mem_keys_iff.mp (mem_nonterminals_of_mem_alternatives hα)
    rw [OrderedMap.getD, hold] at hα
    exact (hg _ (OrderedMap.mem_entries_iff.mpr hold)).2.2 α hα
  · exact hg _ (OrderedMap.mem_entries_iff.mpr hget)

namespace GrammarReading

/-- What was read of a text so far: the grammar is spelled in plain symbols, and the start symbol is the
nonterminal that was declared first. -/
structure Sound (r : GrammarReading) : Prop where
  spelled : r.grammar.Spelled
  start : r.start = r.grammar.nonterminals.head?

theorem sound_empty : Sound {} where
  spelled _ he := nomatch he
  start := rfl

theorem Sound.addLine {r : GrammarReading} (hr : r.Sound) {line : List Char}
    (hbreak : ∀ c ∈ line, Text.isLineBreak c = false) : (r.addLine (.read line)).Sound := by
  cases hline : GrammarLine.read line with
  | skipped text => exact ⟨hr.spelled, hr.start⟩
  | declaration A alternatives =>
    obtain ⟨hA, hne, halternatives⟩ := GrammarLine.of_read_eq_declaration hbreak hline
    refine ⟨hr.spelled.add hA hne halternatives, ?_⟩
    simp only [GrammarReading.addLine, hr.start, Grammar.nonterminals_add]
    cases hnames : r.grammar.nonterminals with
    | nil => simp
    | cons B others => split <;> simp

/-- What a text is read as: a grammar that is spelled in plain symbols, with the nonterminal as start symbol
that was declared first. -/
theorem sound_read (text : String) : (Grammar.read text).Sound := by
  rw [Grammar.read, Grammar.readLines, List.foldl_map]
  refine List.foldlRecOn (motive := Sound) _ _ sound_empty fun r hr line hline => ?_
  exact hr.addLine (Text.of_mem_lines hline).2

end GrammarReading

namespace Grammar

variable {g : Grammar} {start : Symbol} {text : String}

theorem alternatives_reread (g : Grammar) (A : Symbol) :
    g.reread.alternatives A = (g.alternatives A).map Alternative.reread := by
  rw [alternatives, alternatives, OrderedMap.getD, OrderedMap.getD, reread, OrderedMap.get?_mapValues]
  cases g.get? A <;> rfl

theorem Spelled.of_mem_alternatives (hg : g.Spelled) {A : Symbol} {α : Alternative}
    (hα : α ∈ g.alternatives A) : α.Spelled := by
  obtain ⟨alternatives, hget⟩ := OrderedMap.mem_keys_iff.mp (mem_nonterminals_of_mem_alternatives hα)
  rw [Grammar.alternatives, OrderedMap.getD, hget] at hα
  exact (hg _ (OrderedMap.mem_entries_iff.mpr hget)).2.2 α hα

/-- Where a grammar is spelled in plain symbols, no symbol of an alternative has blanks or bars. -/
theorem Spelled.apart (hg : g.Spelled) {s : Symbol} (hs : s ∈ g.occurrences) : s.Apart := by
  obtain ⟨A, α, hα, hs⟩ := mem_occurrences_iff.mp hs
  rcases hg.of_mem_alternatives hα with rfl | ⟨-, hplain⟩
  · exact List.mem_singleton.mp hs ▸ Symbol.apart_epsilon
  · exact (hplain s hs).apart

/-- A grammar in plain symbols is the same when it is read again, if each symbol that is the whole of an
alternative is one token. -/
theorem Spelled.reread_eq_iff (hg : g.Spelled) :
    g.reread = g ↔ ∀ A s, [s] ∈ g.alternatives A → Alternative.read s.toList = [s] := by
  constructor
  · intro h A s hs
    have hsame : (g.alternatives A).map Alternative.reread = (g.alternatives A).map id := by
      rw [← alternatives_reread, h, List.map_id]
    have hone : Alternative.reread [s] = [s] := List.map_inj_left.mp hsame [s] hs
    exact (hg.of_mem_alternatives hs).reread_eq_iff.mp hone s rfl
  · intro h
    refine OrderedMap.ext_getD [] (OrderedMap.keys_mapValues ..) fun A => ?_
    change g.reread.alternatives A = g.alternatives A
    rw [alternatives_reread]
    refine (List.map_congr_left fun α hα => ?_).trans (List.map_id _)
    exact (hg.of_mem_alternatives hα).reread_eq_iff.mpr fun s hs => h A s (hs ▸ hα)

/-- A grammar in plain symbols is read again: its nonterminals in their order, the first one as start symbol, no
line skipped. -/
theorem Spelled.read_render (hg : g.Spelled) (hstart : g.nonterminals.head? = some start) :
    read g.render = { grammar := g.reread, start := some start, skipped := [] } := by
  rw [hg.inLine.read_render hstart, hg.mapValues_rereadTogether]

/-- A grammar that was read is in plain symbols, and starts with the nonterminal that was declared first. -/
theorem spelled_of_parse (h : parse text = .ok (g, start)) :
    g.Spelled ∧ g.nonterminals.head? = some start := by
  have hsound := GrammarReading.sound_read text
  unfold parse at h
  split at h
  · next hs =>
    cases h
    exact ⟨hsound.spelled, hsound.start ▸ hs⟩
  · cases h

/-- A grammar that was read is read again with the same start symbol, no line skipped and no error, and its
nonterminals have their alternatives in the same order, each as it is read again. The grammar is the same exactly
if each symbol that is the whole of an alternative is read as this symbol. -/
theorem read_render_of_parse (h : parse text = .ok (g, start)) :
    read g.render = { grammar := g.reread, start := some start, skipped := [] } ∧
      (read g.render).error? = none ∧
      (parse g.render = .ok (g, start) ↔
        ∀ A s, [s] ∈ g.alternatives A → Alternative.read s.toList = [s]) := by
  obtain ⟨hg, hstart⟩ := spelled_of_parse h
  have hread := hg.read_render hstart
  have hparse : parse g.render = .ok (g.reread, start) := by rw [parse, hread]
  refine ⟨hread, by rw [hread]; rfl, ?_⟩
  rw [hparse, ← hg.reread_eq_iff]
  simp only [Except.ok.injEq, Prod.mk.injEq, and_true]

/-- A grammar as it is written by hand: declared on two lines, with an arrow of either kind, tokens that touch,
`ε` beside a token, and a name that holds a bar. -/
def byHand : String := "S -> foo_bar x | aB'ε\nnothing here\nS → epsilon\na | b -> == | "

/-- What `byHand` is read as. -/
def byHandGrammar : Grammar :=
  .ofList [("S", [["foo_bar", "x"], ["a", "B'"], ["ε"]]), ("a | b", [["=="], ["ε"]])]

theorem byHand_read_render : parse byHand = .ok (byHandGrammar, "S") ∧
    read byHandGrammar.render = { grammar := byHandGrammar.reread, start := some "S", skipped := [] } ∧
    (read byHandGrammar.render).error? = none ∧ parse byHandGrammar.render = .ok (byHandGrammar, "S") := by
  have hparse : parse byHand = .ok (byHandGrammar, "S") := by decide +kernel
  have htokens : ∀ p ∈ byHandGrammar.productions, p.2.length = 1 →
      ∀ s ∈ p.2, Alternative.read s.toList = [s] := by decide +kernel
  obtain ⟨hread, herror, hsame⟩ := read_render_of_parse hparse
  refine ⟨hparse, hread, herror, hsame.mpr fun A s hs => ?_⟩
  exact htokens (A, [s]) (mem_productions_iff.mpr hs) rfl s List.mem_cons_self

/-- A grammar that was read need not be the same when it is read again: `foo_bar`, beside an `ε` that vanishes,
is three symbols when it is written alone. -/
theorem lone_word_not_reread : ¬ ∀ (text : String) (g : Grammar) (start : Symbol),
    parse text = .ok (g, start) → read g.render = { grammar := g, start := some start, skipped := [] } := by
  intro h
  have hparse : parse "S -> foo_bar ε" = .ok (.ofList [("S", [["foo_bar"]])], "S") := by decide +kernel
  have hread := congrArg GrammarReading.grammar (h _ _ _ hparse)
  exact absurd hread (by decide +kernel)

end Grammar

end FormalLanguages
