import FormalLanguages.Proofs.Grammar.Conflicts
/-!
# The cells of a predictive table

The table is filled by registrations, one for each alternative and each terminal that predicts it, in
the order of the grammar. A registration that is made again changes nothing, so the cells come in the
order of their first registration and hold each alternative once. Nothing is assumed of the sets that are
given: what predicts an alternative is read off from them.

Results:
* `keys_predictionTable`: the cells that there are, in their order.
* `conflicts_eq`: the conflicts are the cells with more than one alternative, in the same order.
* `isLL1_iff`: no cell has more than one alternative.
* `predictionTable_tabulates`: what a table holds is told by the terminals that predict an alternative, and
  there are no conflicts exactly if these are disjoint for different alternatives of one nonterminal.
-/
namespace FormalLanguages

namespace PredictionTable

variable {t : PredictionTable} {A a : Symbol}

theorem keys_register (t : PredictionTable) (A a : Symbol) (α : Alternative) :
    (t.register A a α).keys = if (A, a) ∈ t.keys then t.keys else t.keys ++ [(A, a)] := by
  rw [register, OrderedMap.alter, OrderedMap.keys_insert]
  congr

/-- A registration: a cell, and the alternative that is put there. -/
abbrev Registration := (Symbol × Symbol) × Alternative

/-- The cells come in the order of their first registration. -/
theorem keys_foldl_registrations (rs : List Registration) :
    OrderedMap.keys (rs.foldl (fun t r => register t r.1.1 r.1.2 r.2) ∅) = (rs.map Prod.fst).eraseDups := by
  induction rs using List.reverseRecOn with
  | nil => rfl
  | append_singleton rs r ih =>
    rw [List.foldl_append, List.foldl_cons, List.foldl_nil, keys_register, ih, List.map_append,
      List.map_singleton, eraseDups_append_singleton]
    simp only [List.mem_eraseDups]

/-- The conflicts are the cells with more than one alternative, in the order of the cells. -/
theorem conflicts_eq (t : PredictionTable) :
    t.conflicts = (t.keys.filter fun k => 2 ≤ (t.cell k.1 k.2).length).map fun k =>
      ⟨k.1, k.2, t.cell k.1 k.2⟩ := by
  rw [conflicts, OrderedMap.entries_eq t [], List.filter_map, List.map_map]
  rfl

theorem mem_keys_of_mem_cell {α : Alternative} (h : α ∈ t.cell A a) : (A, a) ∈ t.keys := by
  refine OrderedMap.get?_isSome.mp (Option.isSome_iff_ne_none.mpr fun hnone => ?_)
  simp [cell, OrderedMap.getD, hnone] at h

/-- A table is of an LL(1) grammar exactly if no cell has two different alternatives. -/
theorem isLL1_iff (h : ∀ A a, (t.cell A a).Nodup) :
    t.isLL1 = true ↔ ∀ A a, ∀ α ∈ t.cell A a, ∀ β ∈ t.cell A a, α = β := by
  rw [isLL1, List.isEmpty_iff]
  constructor
  · intro ht A a
    exact (length_le_one_iff_of_nodup (h A a)).mp (length_cell_le_one ht A a)
  · intro ht
    exact conflicts_eq_nil fun A a => (length_le_one_iff_of_nodup (h A a)).mpr (ht A a)

end PredictionTable

namespace Grammar

open PredictionTable

variable {g : Grammar} {first follow : SymbolSets} {A a : Symbol} {α : Alternative}

/-- The terminal predicts an alternative of `A` with the given sets: it is in the FIRST set of the
alternative, or this has `ε` and the FOLLOW set of `A` has the terminal. -/
def Predicts (g : Grammar) (first follow : SymbolSets) (A : Symbol) (α : Alternative) (a : Symbol) : Prop :=
  a ∈ firstOf first g.isNonterminal α ∧ a ≠ epsilon ∨
    epsilon ∈ firstOf first g.isNonterminal α ∧ a ∈ follow.getD A ∅

instance : Decidable (g.Predicts first follow A α a) := inferInstanceAs (Decidable (_ ∨ _))

theorem mem_predict_iff_predicts : a ∈ g.predict first follow A α ↔ g.Predicts first follow A α a := by
  rw [predict, Predicts, List.mem_append, ← NameSet.mem_def, NameSet.mem_erase]
  refine or_congr_right ?_
  split
  · next h => rw [← NameSet.mem_def, and_iff_right h]
  · next h => simp [h]

/-- The registrations in the order in which they are made. -/
def registrations (g : Grammar) (first follow : SymbolSets) : List Registration :=
  g.productions.flatMap fun p => (g.predict first follow p.1 p.2).map fun a => ((p.1, a), p.2)

theorem predictionTable_eq_foldl (g : Grammar) (first follow : SymbolSets) :
    g.predictionTable first follow =
      (g.registrations first follow).foldl (fun t r => t.register r.1.1 r.1.2 r.2) ∅ := by
  simp only [predictionTable, registrations, List.foldl_flatMap, List.foldl_map]

/-- The cells that there are, in the order in which they are first filled. -/
theorem keys_predictionTable (g : Grammar) (first follow : SymbolSets) :
    (g.predictionTable first follow).keys =
      ((g.registrations first follow).map Prod.fst).eraseDups := by
  rw [predictionTable_eq_foldl, keys_foldl_registrations]

theorem mem_keys_predictionTable_iff : (A, a) ∈ (g.predictionTable first follow).keys ↔
    ∃ α ∈ g.alternatives A, g.Predicts first follow A α a := by
  simp only [keys_predictionTable, registrations, List.mem_eraseDups, List.map_flatMap, List.map_map,
    List.mem_flatMap, List.mem_map, Function.comp_apply, Prod.exists, Prod.mk.injEq, mem_productions_iff,
    mem_predict_iff_predicts]
  constructor
  · rintro ⟨_, α, hα, _, ha, rfl, rfl⟩
    exact ⟨α, hα, ha⟩
  · rintro ⟨α, hα, ha⟩
    exact ⟨A, α, hα, a, ha, rfl, rfl⟩

theorem cell_predictionTable_eq (g : Grammar) (first follow : SymbolSets) (A a : Symbol) :
    (g.predictionTable first follow).cell A a =
      ((g.alternatives A).filter fun α => g.Predicts first follow A α a).eraseDups := by
  simp only [cell_predictionTable, mem_predict_iff_predicts]

theorem nodup_cell_predictionTable (g : Grammar) (first follow : SymbolSets) (A a : Symbol) :
    ((g.predictionTable first follow).cell A a).Nodup := by
  rw [cell_predictionTable]
  exact nodup_eraseDups _

theorem mem_cell_predictionTable_iff : α ∈ (g.predictionTable first follow).cell A a ↔
    α ∈ g.alternatives A ∧ g.Predicts first follow A α a := by
  rw [cell_predictionTable_eq, List.mem_eraseDups, List.mem_filter, decide_eq_true_eq]

/-- There are no conflicts exactly if different alternatives of one nonterminal are predicted by different
terminals. -/
theorem isLL1_predictionTable_iff : (g.predictionTable first follow).isLL1 = true ↔
    ∀ A, ∀ α ∈ g.alternatives A, ∀ β ∈ g.alternatives A, α ≠ β →
      ∀ a, ¬ (g.Predicts first follow A α a ∧ g.Predicts first follow A β a) := by
  rw [isLL1_iff (nodup_cell_predictionTable g first follow)]
  simp only [mem_cell_predictionTable_iff]
  constructor
  · rintro h A α hα β hβ hne a ⟨hpα, hpβ⟩
    exact hne (h A a α ⟨hα, hpα⟩ β ⟨hβ, hpβ⟩)
  · rintro h A a α ⟨hα, hpα⟩ β ⟨hβ, hpβ⟩
    exact Decidable.byContradiction fun hne => h A α hα β hβ hne a ⟨hpα, hpβ⟩

/-- What a predictive table holds, whatever sets it is made of. A cell is there exactly if its terminal
predicts some alternative of its nonterminal; it holds all these alternatives in the order of the grammar,
each at its first place and once. The conflicts are the cells with two alternatives or more, in the order of
the table and with all their alternatives. The grammar is LL(1) exactly if no terminal predicts two
different alternatives of one nonterminal. -/
theorem predictionTable_tabulates (g : Grammar) (first follow : SymbolSets) :
    (∀ A a, (A, a) ∈ (g.predictionTable first follow).keys ↔
      ∃ α ∈ g.alternatives A, g.Predicts first follow A α a) ∧
    (∀ A a, (g.predictionTable first follow).cell A a =
      ((g.alternatives A).filter fun α => g.Predicts first follow A α a).eraseDups) ∧
    ((g.predictionTable first follow).conflicts =
      ((g.predictionTable first follow).keys.filter fun k =>
        2 ≤ ((g.predictionTable first follow).cell k.1 k.2).length).map fun k =>
          ⟨k.1, k.2, (g.predictionTable first follow).cell k.1 k.2⟩) ∧
    ((g.predictionTable first follow).isLL1 = true ↔
      ∀ A, ∀ α ∈ g.alternatives A, ∀ β ∈ g.alternatives A, α ≠ β →
        ∀ a, ¬ (g.Predicts first follow A α a ∧ g.Predicts first follow A β a)) :=
  ⟨fun _ _ => mem_keys_predictionTable_iff, cell_predictionTable_eq g first follow, conflicts_eq _,
    isLL1_predictionTable_iff⟩

end Grammar

end FormalLanguages
