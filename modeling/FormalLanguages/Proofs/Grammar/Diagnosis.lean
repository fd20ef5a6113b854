import FormalLanguages.Proofs.Grammar.Report
/-!
# What a report says about derivations

A report is found by a search from the start symbol and by rules for productive nonterminals; derivations
appear in neither. A path of the search is a derivation in which one symbol is kept in sight. Nonterminals
that are only declared from outside are nonterminals without alternatives: with them put into the grammar,
a word has none of them, derivations stay the same, and productive is what derives a word.

Results:
* `mem_reachableFrom_iff_derives`: reachable is what occurs in what the start symbol derives.
* `mem_productive_iff_derives`: productive is what derives a word without symbols that are declared.
* `report_tells_derivations`: the whole report in terms of derivations.
-/
namespace FormalLanguages.Grammar

variable {g h : Grammar} {start A B : Symbol} {extra : List Symbol}

/-! ## Reachable nonterminals -/

/-- A path through alternatives is kept in sight by a derivation. -/
theorem exists_derives_of_reaches (hε : epsilon ∉ g.nonterminals) (hr : Reaches g.successors start A) :
    ∃ β, g.Derives [start] β ∧ A ∈ β := by
  induction hr with
  | refl => exact ⟨[start], .refl _, List.mem_singleton_self start⟩
  | @step B C _ hC ih =>
    obtain ⟨β, hβ, hB⟩ := ih
    obtain ⟨before, after, rfl⟩ := List.append_of_mem hB
    obtain ⟨hn, α, hα, hC⟩ := mem_successors_iff.mp hC
    refine ⟨_, hβ.trans (Relation.ReflTransGen.single (.replace before after hα)), ?_⟩
    have hbody : C ∈ Alternative.body α := Alternative.mem_body.mpr ⟨hC, ne_of_mem_of_not_mem hn hε⟩
    exact List.mem_append_right _ (List.mem_append_left _ hbody)

theorem mem_reachableFrom_iff_derives (hε : epsilon ∉ g.nonterminals) (hA : A ∈ g.nonterminals) :
    A ∈ g.reachableFrom start ↔ start ∈ g.nonterminals ∧ ∃ β, g.Derives [start] β ∧ A ∈ β := by
  rw [mem_reachableFrom_iff]
  exact and_congr_right fun _ =>
    ⟨exists_derives_of_reaches hε, fun ⟨_, hβ, hmem⟩ => hβ.reaches hmem hA⟩

/-! ## Nonterminals that are declared from outside -/

/-- The grammar with some nonterminals more, which have no alternatives unless the grammar has some. -/
def declare (g : Grammar) : List Symbol → Grammar
  | [] => g
  | s :: extra => (g.add s []).declare extra

theorem alternatives_add_nil (g : Grammar) (s A : Symbol) :
    (g.add s []).alternatives A = g.alternatives A := by
  rw [alternatives, add, OrderedMap.getD_alter]
  split
  · next hA => rw [List.append_nil, hA, alternatives]
  · rfl

theorem alternatives_declare (g : Grammar) (extra : List Symbol) (A : Symbol) :
    (g.declare extra).alternatives A = g.alternatives A := by
  induction extra generalizing g with
  | nil => rfl
  | cons s extra ih => rw [declare, ih, alternatives_add_nil]

theorem mem_nonterminals_declare :
    A ∈ (g.declare extra).nonterminals ↔ A ∈ g.nonterminals ∨ A ∈ extra := by
  induction extra generalizing g with
  | nil => simp [declare]
  | cons s extra ih =>
    rw [declare, ih, add, OrderedMap.alter, mem_nonterminals_insert, List.mem_cons, or_assoc,
      or_left_comm]

/-- Derivations use nothing but alternatives. -/
theorem derives_of_alternatives (halt : ∀ A, g.alternatives A = h.alternatives A) {β γ : List Symbol}
    (hd : g.Derives β γ) : h.Derives β γ := by
  induction hd with
  | refl => exact .refl β
  | tail _ hs ih =>
    cases hs with
    | replace before after hα => exact ih.tail (.replace before after (halt _ ▸ hα))

theorem derives_declare_iff {β γ : List Symbol} : (g.declare extra).Derives β γ ↔ g.Derives β γ :=
  ⟨derives_of_alternatives (alternatives_declare g extra),
    derives_of_alternatives fun A => (alternatives_declare g extra A).symm⟩

/-! ## Productive nonterminals -/

/-- A symbol declared from outside counts as one of the grammar's own. -/
theorem mem_productive_iff_declare :
    A ∈ g.productive extra ↔ A ∈ (g.declare extra).productive [] := by
  have hneeded : (fun s => decide (s ≠ epsilon ∧ (g.isNonterminal s ∨ s ∈ extra))) = fun s =>
      decide (s ≠ epsilon ∧ ((g.declare extra).isNonterminal s ∨ s ∈ ([] : List Symbol))) := by
    funext s
    simp [isNonterminal_iff, mem_nonterminals_declare]
  have hproductions : ∀ p, p ∈ g.productions ↔ p ∈ (g.declare extra).productions := fun p => by
    rw [← Prod.mk.eta (p := p), mem_productions_iff, mem_productions_iff, alternatives_declare]
  simp only [productive, NameSet.mem_ofList, mem_consequences_iff]
  rw [hneeded]
  exact ⟨.mono (List.map_subset _ fun p => (hproductions p).mp),
    .mono (List.map_subset _ fun p => (hproductions p).mpr)⟩

theorem mem_productive_iff_derives (hε : epsilon ∉ g.nonterminals) (hextra : epsilon ∉ extra)
    (hA : A ∈ g.nonterminals) : A ∈ g.productive extra ↔
      ∃ w, g.Derives [A] w ∧ ∀ a ∈ w, a ∉ g.nonterminals ∧ a ∉ extra := by
  have hε' : epsilon ∉ (g.declare extra).nonterminals := fun h =>
    (mem_nonterminals_declare.mp h).elim hε hextra
  have hAε : epsilon ∉ [A] := by simpa using (ne_of_mem_of_not_mem hA hε).symm
  have hword : ∀ {w}, g.Derives [A] w → ((g.declare extra).IsWord w ↔
      ∀ a ∈ w, a ∉ g.nonterminals ∧ a ∉ extra) := by
    intro w hw
    have hwε : epsilon ∉ w := hw.epsilon_not_mem hAε
    refine forall₂_congr fun a ha => ?_
    rw [mem_nonterminals_declare, not_or]
    exact and_iff_left (ne_of_mem_of_not_mem ha hwε)
  rw [mem_productive_iff_declare, mem_productive_iff hε', and_iff_right (mem_nonterminals_declare.mpr
    (Or.inl hA))]
  refine exists_congr fun w => ?_
  rw [← derives_iff_yields hε' hAε, derives_declare_iff, and_comm]
  exact and_congr_right hword

/-! ## The report -/

/-- What a report says of a grammar, in terms of derivations. A nonterminal is reachable exactly if it occurs
in a sequence that the start symbol derives, and this is itself a nonterminal; it is productive exactly if it
derives a word, in which no symbol is a nonterminal or declared from outside. What is never used is
unreachable. A grammar is clean exactly if no symbol occurs in its alternatives that is only declared from
outside, and every nonterminal is reachable and productive. -/
theorem report_tells_derivations (hε : epsilon ∉ g.nonterminals) (hextra : epsilon ∉ extra)
    (start : Symbol) :
    (∀ A ∈ g.nonterminals, A ∈ (g.report start extra).reachable ↔
      start ∈ g.nonterminals ∧ ∃ β, g.Derives [start] β ∧ A ∈ β) ∧
    (∀ A ∈ g.nonterminals, A ∈ (g.report start extra).productive ↔
      ∃ w, g.Derives [A] w ∧ ∀ a ∈ w, a ∉ g.nonterminals ∧ a ∉ extra) ∧
    (∀ A ∈ (g.report start extra).neverUsed, A ∈ (g.report start extra).unreachable) ∧
    ((g.report start extra).isClean = true ↔
      (∀ s ∈ extra, s ∉ g.nonterminals → s ∉ g.occurrences) ∧
      ∀ A ∈ g.nonterminals,
        A ∈ (g.report start extra).reachable ∧ A ∈ (g.report start extra).productive) :=
  ⟨fun _ hA => mem_reachableFrom_iff_derives hε hA, fun _ hA => mem_productive_iff_derives hε hextra hA,
    fun _ => neverUsed_subset_unreachable, isClean_report_iff_forall⟩

/-- A call of a function that is declared elsewhere, an unfinished list, and a loop to which nothing leads. -/
def unfinished : Grammar := .ofList
  [("S", [["C", "L"], ["ε", "n", "ε"]]), ("C", [["f", "F"]]), ("L", [["n", "L"], []]), ("O", [["O", "n"]])]

theorem unfinished_report :
    epsilon ∉ unfinished.nonterminals ∧ epsilon ∉ ["F", "G"] ∧
    (∃ β, unfinished.Derives ["S"] β ∧ "L" ∈ β) ∧
    (¬ ∃ β, unfinished.Derives ["S"] β ∧ "O" ∈ β) ∧
    (∃ w, unfinished.Derives ["S"] w ∧ ∀ a ∈ w, a ∉ unfinished.nonterminals ∧ a ∉ ["F", "G"]) ∧
    (¬ ∃ w, unfinished.Derives ["C"] w ∧ ∀ a ∈ w, a ∉ unfinished.nonterminals ∧ a ∉ ["F", "G"]) ∧
    ¬ (unfinished.report "S" ["F", "G"]).isClean = true := by
  have hε : epsilon ∉ unfinished.nonterminals := by decide
  have hextra : epsilon ∉ ["F", "G"] := by decide
  obtain ⟨hreachable, hproductive, -, hclean⟩ := report_tells_derivations hε hextra "S"
  refine ⟨hε, hextra, ((hreachable "L" (by decide)).mp (by decide)).2, fun h => ?_,
    (hproductive "S" (by decide)).mp (by decide), fun h => ?_, fun h => ?_⟩
  · exact absurd ((hreachable "O" (by decide)).mpr ⟨by decide, h⟩) (by decide)
  · exact absurd ((hproductive "C" (by decide)).mpr h) (by decide)
  · exact (hclean.mp h).1 "F" (by decide) (by decide) (by decide)

end FormalLanguages.Grammar
