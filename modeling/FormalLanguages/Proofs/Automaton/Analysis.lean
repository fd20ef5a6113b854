import FormalLanguages.Automaton.Analysis
import FormalLanguages.Proofs.Automaton.DeadState
import FormalLanguages.Proofs.Automaton.Description
import FormalLanguages.Proofs.Automaton.Headings
import FormalLanguages.Proofs.Automaton.MinimalSubset
/-!
# What comes of a text

A text is read, and then one automaton is made of another, four in all. Each construction asks something of what it
is given, and what was read, or made by the construction before, has it: names of states without commas, no `ε`
among the input symbols, all states declared, and no choices. So no construction fails. The only text without an
answer is one with contents under a label that belongs to no section, which takes a letter outside of ASCII.

Results:
* `unknownLabel?_underHeadings_eq_none_iff`: all contents stand under the labels of sections.
* `WellFormed.isDeterministic_quotient`: merging makes no choices, even if two blocks have the same name.
* `coherent_analyze`: what is made of an automaton that was read.
* `answered_analyzeText_iff`: the texts that are answered.
-/
namespace FormalLanguages

namespace Description

variable {contents : List (Option Heading × List Char)} {lines : List (List Char)} {label : String}
  {content : List Char}

theorem exists_mem_of_unknownLabel? (h : unknownLabel? contents = some label) :
    ∃ content, (some (.unknown label), content) ∈ contents := by
  obtain ⟨⟨heading, content⟩, hmem, h⟩ := List.exists_of_findSome?_eq_some h
  split at h
  · next hheading =>
    obtain rfl : heading = some (.unknown _) := hheading
    cases h
    exact ⟨content, hmem⟩
  · cases h

theorem unknownLabel?_eq_none_iff :
    unknownLabel? contents = none ↔ ∀ label content, (some (.unknown label), content) ∉ contents := by
  constructor
  · intro h label content hmem
    cases List.findSome?_eq_none_iff.mp h _ hmem
  · intro h
    refine Option.eq_none_iff_forall_ne_some.mpr fun label hlabel => ?_
    obtain ⟨content, hmem⟩ := exists_mem_of_unknownLabel? hlabel
    exact h label content hmem

/-- All contents stand under the labels of sections. -/
theorem unknownLabel?_underHeadings_eq_none_iff : unknownLabel? (underHeadings none lines) = none ↔
    ∀ label content, ¬ StandsUnder lines (.unknown label) content := by
  simp only [unknownLabel?_eq_none_iff, mem_underHeadings_iff]

/-- What contents stand under is the label of some line. -/
theorem StandsUnder.exists_heading {h : Heading} (hcontent : StandsUnder lines h content) :
    ∃ line ∈ lines, ∃ content, heading? line = some (h, content) := by
  obtain ⟨before, line, after, rfl, ⟨hline, -⟩ | ⟨-, -, hlast⟩⟩ := hcontent
  · exact ⟨line, by simp, content, hline⟩
  · obtain ⟨⟨h, content⟩, hmem, rfl⟩ := List.mem_map.mp (List.mem_of_getLast? hlast)
    obtain ⟨line, hline, hheading⟩ := List.mem_filterMap.mp hmem
    exact ⟨line, by simp [hline], content, hheading⟩

/-- A label that belongs to no section takes a letter outside of ASCII. -/
theorem StandsUnder.exists_foreignCase {cs : List Char}
    (h : StandsUnder (Text.lines cs) (.unknown label) content) : ∃ c ∈ cs, c ∈ Text.foreignCases := by
  obtain ⟨line, hline, content, hheading⟩ := h.exists_heading
  obtain ⟨c, hc, hforeign⟩ := exists_foreignCase_of_unknown hheading
  exact ⟨c, Text.mem_of_mem_lines hline hc, hforeign⟩

end Description

/-- What an analysis should give, with the minimal automaton `n`: all automata have the input symbols of the given
one, those that are made make no choices, and nothing is missing from the completed one. -/
structure AutomatonAnalysis.Coherent (r : AutomatonAnalysis) (n : Automaton) : Prop where
  minimal_eq : r.minimal = .ok n
  alphabet_dfa : r.dfa.alphabet = r.nfa.alphabet
  alphabet_complete : r.complete.alphabet = r.nfa.alphabet
  alphabet_minimal : n.alphabet = r.nfa.alphabet
  isDeterministic_dfa : r.dfa.isDeterministic = true
  isDeterministic_complete : r.complete.isDeterministic = true
  isDeterministic_minimal : n.isDeterministic = true
  isComplete_complete : r.complete.isComplete = true

namespace Automaton

open Description

/-- Either there is no automaton and a wording that says why, or there are all four automata. To stop at a label that
belongs to no section is no answer. -/
def Answered : Except DescriptionError AutomatonAnalysis → Prop
  | .error (.unknownSection _) => False
  | .error .noState => DescriptionError.noState.message ≠ ""
  | .ok r => ∃ n, r.Coherent n

variable {m : Automaton} {text : String}

/-! ## The four automata -/

/-- Merging makes no choices: a block has one transition at most on each symbol, and the last one counts if two
blocks have the same name. -/
theorem WellFormed.isDeterministic_quotient (hm : m.WellFormed) : m.quotient.isDeterministic = true := by
  refine List.all_eq_true.mpr fun e he => ?_
  have hmove : (e.1, e.2) ∈ (m.blocks.map m.blockMoves).flatten :=
    OrderedMap.mem_of_get?_ofList (OrderedMap.mem_entries_iff.mp he)
  obtain ⟨s, a, t, ht, he⟩ := hm.mem_blockMoves_iff.mp hmove
  obtain rfl : _ = e := he
  have hε : a ≠ epsilon := by
    rintro rfl
    exact not_mem_targets_epsilon hm.isDeterministic ((target?_eq_some_iff hm.isDeterministic).mp ht)
  simp [hε, NameSet.size, NameSet.toList_singleton]

/-- The names that the sets of states are named by have no commas. -/
theorem plainNames_of_parse (h : parse text = .ok m) : m.PlainNames := by
  have hm := (of_parse h).toDeclared
  rintro s (rfl | hs)
  · exact comma_not_mem_of_parse h hm.start_mem
  · exact comma_not_mem_of_parse h (hm.mem_allTargets hs)

/-- What is made of an automaton that was read. -/
theorem coherent_analyze (h : parse text = .ok m) : m.analyze.Coherent m.determinize.trim.quotient := by
  have hε : epsilon ∉ m.alphabet := epsilon_not_mem_of_parse h
  have hdet := wellFormed_determinize (plainNames_of_parse h) hε
  exact {
    minimal_eq := hdet.minimize_eq
    alphabet_dfa := rfl
    alphabet_complete := m.determinize.alphabet_complete
    alphabet_minimal := rfl
    isDeterministic_dfa := hdet.isDeterministic
    isDeterministic_complete := isDeterministic_complete (m := m.determinize) hε hdet.isDeterministic
    isDeterministic_minimal := hdet.trim.isDeterministic_quotient
    isComplete_complete := m.determinize.isComplete_complete }

/-! ## Texts that are answered -/

theorem parse_eq_error_iff {label : String} : parse text = .error (.unknownSection label) ↔
    unknownLabel? (underHeadings none (Text.lines text.toList)) = some label := by
  unfold parse read
  dsimp only
  cases unknownLabel? (underHeadings none (Text.lines text.toList)) with
  | some other => simp [bind, Except.bind]
  | none =>
    simp only [bind, Except.bind]
    split <;> simp [pure, Except.pure, throw, throwThe, MonadExceptOf.throw]

/-- A text is answered if it can be read, or has no states. -/
theorem answered_analyzeText_iff_parse :
    Answered (analyzeText text) ↔ ∀ label, parse text ≠ .error (.unknownSection label) := by
  unfold analyzeText
  cases h : parse text with
  | error e =>
    cases e with
    | unknownSection label => simp [Except.map, Answered]
    | noState => simp [Except.map, Answered, DescriptionError.message]
  | ok m => simpa [Except.map, Answered] using ⟨_, coherent_analyze h⟩

/-- A text is answered if all its contents stand under the labels of sections; so is every text without the letters
that share a case with a letter of ASCII. -/
theorem answered_analyzeText_iff (text : String) :
    (Answered (analyzeText text) ↔
      ∀ label content, ¬ StandsUnder (Text.lines text.toList) (.unknown label) content) ∧
    (Answered (analyzeText text) ∨ ∃ c ∈ text.toList, c ∈ Text.foreignCases) := by
  have hiff : Answered (analyzeText text) ↔
      ∀ label content, ¬ StandsUnder (Text.lines text.toList) (.unknown label) content := by
    rw [answered_analyzeText_iff_parse, ← unknownLabel?_underHeadings_eq_none_iff,
      Option.eq_none_iff_forall_ne_some]
    simp only [ne_eq, parse_eq_error_iff]
  refine ⟨hiff, or_iff_not_imp_right.mpr fun hno => hiff.mpr fun label content hcontent => ?_⟩
  exact hno hcontent.exists_foreignCase

/-- A label with a long `s` is taken for one, but belongs to no section. -/
theorem not_answered_long_s : ¬ Answered (analyzeText "ſtates: q0") := by
  have h : parse "ſtates: q0" = .error (.unknownSection "ſtates") := by decide +kernel
  exact fun hanswered => answered_analyzeText_iff_parse.mp hanswered _ h

end Automaton

end FormalLanguages
