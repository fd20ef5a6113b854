import FormalLanguages.NameSet
import FormalLanguages.OrderedMap
import FormalLanguages.Symbol
/-!
# Grammars

A context-free grammar gives each of its nonterminals a list of alternatives, in the order in which
they were written; an alternative is a sequence of symbols. Symbols are names. The name `ε` stands
for the empty word wherever it occurs in an alternative, and any other symbol without alternatives of
its own is a terminal.
-/
namespace FormalLanguages

/-- The end of the input, among the symbols that may follow a nonterminal. -/
def endMarker : Symbol := "$"

/-- The right-hand side of a production. -/
abbrev Alternative := List Symbol

/-- A grammar: the alternatives of each nonterminal. -/
abbrev Grammar := OrderedMap Symbol (List Alternative)

/-- A production: a nonterminal and one of its alternatives. -/
abbrev Production := Symbol × Alternative

/-- A set of symbols for each nonterminal. -/
abbrev SymbolSets := OrderedMap Symbol NameSet

/-- The concatenation of two sequences; `ε` vanishes, and an empty result is written `ε`. -/
def Alternative.concat (a b : Alternative) : Alternative :=
  match (a ++ b).filter (· ≠ epsilon) with
  | [] => [epsilon]
  | c => c

namespace Grammar

/-- The nonterminals in the order of their declaration. -/
def nonterminals (g : Grammar) : List Symbol := g.keys

/-- The symbol has alternatives, perhaps none. -/
def isNonterminal (g : Grammar) (s : Symbol) : Bool := g.contains s

/-- The alternatives of a nonterminal. -/
def alternatives (g : Grammar) (A : Symbol) : List Alternative := g.getD A []

/-- All productions in order. -/
def productions (g : Grammar) : List Production :=
  g.entries.flatMap fun e => e.2.map fun α => (e.1, α)

/-- The occurrences of symbols in the alternatives, in order. -/
def occurrences (g : Grammar) : List Symbol := g.productions.flatMap Prod.snd

/-- The terminals in the order of their first occurrence. -/
def terminals (g : Grammar) : List Symbol :=
  (g.occurrences.filter fun s => s ≠ epsilon ∧ !g.isNonterminal s).eraseDups

/-- All names in use: nonterminals, and symbols of alternatives, `ε` among them. -/
def symbols (g : Grammar) : NameSet := .ofList (g.nonterminals ++ g.occurrences)

/-- The grammar with more alternatives for a nonterminal, which may be new. -/
def add (g : Grammar) (A : Symbol) (alternatives : List Alternative) : Grammar :=
  g.alter A [] (· ++ alternatives)

/-- The alternatives have the usual form: none is empty, and `ε` occurs only as a whole alternative. -/
def Canonical (g : Grammar) : Prop :=
  ¬ g.isNonterminal epsilon ∧ ∀ p ∈ g.productions, p.2 ≠ [] ∧ (epsilon ∈ p.2 → p.2 = [epsilon])

instance (g : Grammar) : Decidable g.Canonical := inferInstanceAs (Decidable (_ ∧ _))

theorem isNonterminal_iff {g : Grammar} {s : Symbol} :
    g.isNonterminal s = true ↔ s ∈ g.nonterminals :=
  OrderedMap.contains_iff

/-- Only a nonterminal has alternatives. -/
theorem mem_nonterminals_of_mem_alternatives {g : Grammar} {A : Symbol} {α : Alternative}
    (h : α ∈ g.alternatives A) : A ∈ g.nonterminals := by
  unfold alternatives OrderedMap.getD at h
  cases hA : g.get? A with
  | none => simp [hA] at h
  | some alternatives => exact OrderedMap.mem_keys_iff.mpr ⟨alternatives, hA⟩

theorem mem_productions_iff {g : Grammar} {A : Symbol} {α : Alternative} :
    (A, α) ∈ g.productions ↔ α ∈ g.alternatives A := by
  simp only [productions, List.mem_flatMap, List.mem_map, Prod.mk.injEq, alternatives,
    OrderedMap.getD]
  constructor
  · intro h
    obtain ⟨⟨B, alternatives⟩, he, β, hβ, rfl, rfl⟩ := h
    rw [OrderedMap.mem_entries_iff.mp he]; exact hβ
  · intro h
    cases hA : g.get? A with
    | none => simp [hA] at h
    | some alternatives =>
      exact ⟨(A, alternatives), OrderedMap.mem_entries_iff.mpr hA, α, by simpa [hA] using h, rfl, rfl⟩

theorem mem_occurrences_iff {g : Grammar} {s : Symbol} :
    s ∈ g.occurrences ↔ ∃ A, ∃ α ∈ g.alternatives A, s ∈ α := by
  simp only [occurrences, List.mem_flatMap, Prod.exists, mem_productions_iff]

theorem mem_symbols_iff {g : Grammar} {s : Symbol} :
    s ∈ g.symbols ↔ s ∈ g.nonterminals ∨ s ∈ g.occurrences := by
  simp [symbols]

theorem mem_symbols_of_mem_nonterminals {g : Grammar} {A : Symbol} (h : A ∈ g.nonterminals) : A ∈ g.symbols :=
  mem_symbols_iff.mpr (Or.inl h)

theorem mem_symbols_of_mem_alternatives {g : Grammar} {A s : Symbol} {α : Alternative}
    (hα : α ∈ g.alternatives A) (hs : s ∈ α) : s ∈ g.symbols :=
  mem_symbols_iff.mpr (Or.inr (mem_occurrences_iff.mpr ⟨A, α, hα, hs⟩))

theorem mem_terminals_iff {g : Grammar} {a : Symbol} :
    a ∈ g.terminals ↔ a ∈ g.occurrences ∧ a ≠ epsilon ∧ a ∉ g.nonterminals := by
  simp only [terminals, List.mem_eraseDups, List.mem_filter, Bool.not_eq_true', decide_eq_true_eq,
    ← isNonterminal_iff, Bool.not_eq_true]

theorem mem_nonterminals_insert {g : Grammar} {A s : Symbol} {alternatives : List Alternative} :
    s ∈ nonterminals (g.insert A alternatives) ↔ s = A ∨ s ∈ g.nonterminals := by
  rw [nonterminals, OrderedMap.keys_insert]
  split
  · next h => exact ⟨Or.inr, fun h' => h'.elim (· ▸ h) id⟩
  · rw [List.mem_append, List.mem_singleton]; exact or_comm

theorem nonterminals_insert_of_mem {g : Grammar} {A : Symbol} (h : A ∈ g.nonterminals)
    (alternatives : List Alternative) : nonterminals (g.insert A alternatives) = g.nonterminals := by
  rw [nonterminals, OrderedMap.keys_insert]; exact if_pos h

theorem nonterminals_insert_of_not_mem {g : Grammar} {A : Symbol} (h : A ∉ g.nonterminals)
    (alternatives : List Alternative) :
    nonterminals (g.insert A alternatives) = g.nonterminals ++ [A] := by
  rw [nonterminals, OrderedMap.keys_insert]; exact if_neg h

theorem alternatives_insert (g : Grammar) (A B : Symbol) (alternatives : List Alternative) :
    Grammar.alternatives (g.insert A alternatives) B =
      if B = A then alternatives else g.alternatives B :=
  OrderedMap.getD_insert g A B alternatives []

theorem Canonical.epsilon_not_mem {g : Grammar} (hg : g.Canonical) : epsilon ∉ g.nonterminals :=
  fun h => hg.1 (isNonterminal_iff.mpr h)

theorem Canonical.ne_epsilon {g : Grammar} (hg : g.Canonical) {A : Symbol}
    (hA : A ∈ g.nonterminals) : A ≠ epsilon :=
  ne_of_mem_of_not_mem hA hg.epsilon_not_mem

/-- An alternative is `ε` alone, or it is not empty and `ε` does not occur in it. -/
theorem Canonical.cases {g : Grammar} (hg : g.Canonical) {A : Symbol} {α : Alternative}
    (h : α ∈ g.alternatives A) : α = [epsilon] ∨ α ≠ [] ∧ epsilon ∉ α := by
  obtain ⟨hne, heps⟩ := hg.2 (A, α) (mem_productions_iff.mpr h)
  by_cases he : epsilon ∈ α
  · exact Or.inl (heps he)
  · exact Or.inr ⟨hne, he⟩

/-- What comes after a symbol of an alternative has no `ε`. -/
theorem Canonical.epsilon_not_mem_after {g : Grammar} (hg : g.Canonical) {A B : Symbol}
    {before after : List Symbol} (h : before ++ B :: after ∈ g.alternatives A) : epsilon ∉ after := by
  rcases hg.cases h with he | ⟨-, he⟩
  · cases before <;> simp_all
  · exact fun ha => he (by simp [ha])

theorem Canonical.epsilon_not_mem_behind {g : Grammar} (hg : g.Canonical) {A B : Symbol}
    {γ : Alternative} (hγ : B :: γ ∈ g.alternatives A) : epsilon ∉ γ :=
  hg.epsilon_not_mem_after (show [] ++ B :: γ ∈ _ from hγ)

end Grammar

end FormalLanguages
