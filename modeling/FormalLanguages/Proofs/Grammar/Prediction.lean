import FormalLanguages.Grammar.Prediction
import FormalLanguages.Proofs.Grammar.Follow
import FormalLanguages.Proofs.Grouping
import Mathlib.Data.List.Induction
/-!
# What the predictive table holds

Results:
* `cell_predictionTable`: a cell holds the alternatives that its terminal predicts, each once and in
  the order of the grammar, whatever the given sets are.
* `mem_predict_iff`: with the sets of a canonical grammar, a terminal predicts the alternatives that can
  begin with it, and those that can vanish where it follows.
* `length_cell_le_one`: without conflicts no cell has two alternatives.
-/
namespace FormalLanguages

namespace PredictionTable

/-- The cell with one more alternative, unless the cell has it. -/
def appendNew (cell : List Alternative) (α : Alternative) : List Alternative :=
  if cell.contains α then cell else cell ++ [α]

theorem appendNew_eraseDups (αs : List Alternative) (α : Alternative) :
    appendNew αs.eraseDups α = (αs ++ [α]).eraseDups := by
  rw [appendNew, eraseDups_append_singleton]
  simp only [List.contains_iff_mem, List.mem_eraseDups]

theorem appendNew_appendNew (cell : List Alternative) (α : Alternative) :
    appendNew (appendNew cell α) α = appendNew cell α := by
  unfold appendNew
  by_cases h : α ∈ cell <;> simp [h]

theorem cell_register (t : PredictionTable) (A a B b : Symbol) (α : Alternative) :
    (t.register A a α).cell B b =
      if B = A ∧ b = a then appendNew (t.cell B b) α else t.cell B b := by
  rw [cell, register, OrderedMap.getD_alter]
  simp only [Prod.mk.injEq]
  split
  · next h => obtain ⟨rfl, rfl⟩ := h; rfl
  · rfl

theorem cell_foldl_register (A : Symbol) (α : Alternative) (as : List Symbol) (t : PredictionTable)
    (B b : Symbol) : (as.foldl (fun t a => t.register A a α) t).cell B b =
      if B = A ∧ b ∈ as then appendNew (t.cell B b) α else t.cell B b := by
  induction as generalizing t with
  | nil => simp
  | cons a as ih =>
    rw [List.foldl_cons, ih, cell_register]
    by_cases hB : B = A
    · by_cases ha : b = a
      · by_cases hb : a ∈ as <;> simp [hB, ha, hb, appendNew_appendNew]
      · simp [hB, ha]
    · simp [hB]

/-- Without conflicts no cell has two alternatives. -/
theorem length_cell_le_one {t : PredictionTable} (h : t.conflicts = []) (A a : Symbol) :
    (t.cell A a).length ≤ 1 := by
  unfold cell OrderedMap.getD
  cases hget : t.get? (A, a) with
  | none => simp
  | some alternatives =>
    have hmem := OrderedMap.mem_entries_iff.mpr hget
    simp only [conflicts, List.map_eq_nil_iff, List.filter_eq_nil_iff, decide_eq_true_eq] at h
    exact Nat.not_lt.mp (h _ hmem)

end PredictionTable

namespace Grammar

open PredictionTable

theorem cell_foldl_productions (g : Grammar) (first follow : SymbolSets) (ps : List Production)
    (A a : Symbol) :
    PredictionTable.cell (ps.foldl (fun t p =>
      (g.predict first follow p.1 p.2).foldl (fun t a => t.register p.1 a p.2) t) ∅) A a =
      ((ps.filter fun p => p.1 = A ∧ a ∈ g.predict first follow p.1 p.2).map Prod.snd).eraseDups := by
  induction ps using List.reverseRecOn with
  | nil => rfl
  | append_singleton ps p ih =>
    rw [List.foldl_append, List.foldl_cons, List.foldl_nil, cell_foldl_register, ih,
      List.filter_append, List.map_append]
    by_cases hp : p.1 = A ∧ a ∈ g.predict first follow p.1 p.2
    · obtain ⟨rfl, ha⟩ := hp
      simp [ha, appendNew_eraseDups]
    · have hp' : ¬ (A = p.1 ∧ a ∈ g.predict first follow p.1 p.2) := fun h => hp ⟨h.1.symm, h.2⟩
      simp [hp, hp']

theorem map_snd_filter_productions (g : Grammar) (A : Symbol) (q : Alternative → Bool) :
    (g.productions.filter fun p => p.1 = A ∧ q p.2).map Prod.snd = (g.alternatives A).filter q := by
  have hentries : ∀ es : List (Symbol × List Alternative), (es.map Prod.fst).Nodup →
      ((es.flatMap fun e => e.2.map fun α => (e.1, α)).filter fun p => p.1 = A ∧ q p.2).map Prod.snd =
        ((es.lookup A).getD []).filter q := by
    intro es hd
    induction es with
    | nil => rfl
    | cons e es ih =>
      obtain ⟨B, alternatives⟩ := e
      obtain ⟨hB, hd⟩ := List.nodup_cons.mp hd
      rw [List.flatMap_cons, List.filter_append, List.map_append, ih hd]
      by_cases hBA : A = B
      · subst hBA
        have hnone : es.lookup A = none := Option.not_isSome_iff_eq_none.mp fun h =>
          hB (OrderedMap.lookup_isSome.mp h)
        simp [hnone, List.filter_map, Function.comp_def]
      · rw [OrderedMap.lookup_cons_of_ne hBA]
        simp [List.filter_map, Function.comp_def, Ne.symm hBA]
  exact hentries g.entries g.distinct

/-- A cell holds the alternatives that its terminal predicts. -/
theorem cell_predictionTable (g : Grammar) (first follow : SymbolSets) (A a : Symbol) :
    (g.predictionTable first follow).cell A a =
      ((g.alternatives A).filter fun α => a ∈ g.predict first follow A α).eraseDups := by
  rw [predictionTable, cell_foldl_productions, ← map_snd_filter_productions]
  congr 2
  refine List.filter_congr fun p _ => ?_
  by_cases hp : p.1 = A
  · subst hp; simp
  · simp [hp]

variable {g : Grammar}

/-- The predictive table that belongs to a start symbol. -/
def ownTable (g : Grammar) (start : Symbol) : PredictionTable :=
  g.predictionTable g.first (g.follow g.first start)

theorem mem_predict_iff (hg : g.Canonical) {start A a : Symbol} {α : Alternative}
    (hα : α ∈ g.alternatives A) : a ∈ g.predict g.first (g.follow g.first start) A α ↔
      g.Begins α a ∨ g.Yields α [] ∧ g.FollowedBy start A a := by
  have hcanonical := (hg.cases hα).imp id And.right
  have hε := epsilon_mem_firstOf_iff hg hcanonical
  have hfollow : a ∈ (g.follow g.first start).getD A ∅ ↔ _ :=
    mem_follow_iff hg (mem_nonterminals_of_mem_alternatives hα)
  rw [predict, List.mem_append, ← NameSet.mem_def, mem_erase_firstOf_iff hg hcanonical]
  split
  · next h => rw [← NameSet.mem_def, hfollow]; simp [hε.mp h]
  · next h => simp [hε.not.mp h]

theorem mem_cell_iff (hg : g.Canonical) {start A a : Symbol} {α : Alternative} :
    α ∈ (g.ownTable start).cell A a ↔ α ∈ g.alternatives A ∧
      (g.Begins α a ∨ g.Yields α [] ∧ g.FollowedBy start A a) := by
  rw [ownTable, cell_predictionTable, List.mem_eraseDups, List.mem_filter, decide_eq_true_eq]
  exact and_congr_right fun hα => mem_predict_iff hg hα

end Grammar

end FormalLanguages
