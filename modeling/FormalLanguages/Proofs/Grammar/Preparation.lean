import FormalLanguages.Proofs.Grammar.FactoringAnalyses
import FormalLanguages.Proofs.Grammar.PredictiveFronts
/-!
# Preparing a grammar without conflicts

The elimination of left recursion only unfolds fronts in a grammar without conflicts. Factoring then finds
alternatives `σ γ` and `σ γ'` of a nonterminal `A` that begin alike only where they are the same, or where
`σ` derives nothing but the empty word: a terminal with which a word of `σ` begins would predict both.

**One extraction.** The new nonterminal stands at the end of an alternative of `A`, so what follows `A`
follows it, and nothing else. What predicts the tail `γ` there predicted `σ γ` before, `σ` vanishing; what
predicts the merged alternative predicted one of those that it merges.

Results:
* `Extractable.tail_eq`: a terminal predicts at most one tail.
* `Extractable.predictive`: an extraction keeps a grammar free of conflicts.
* `prepareLL1_conflict_free`: the preparation of a clean grammar without conflicts comes to an end, and
  the table of the result has no conflicts.
-/
namespace FormalLanguages.Grammar

open FormalLanguages.Alternative (body)

variable {g h r : Grammar} {start A C s new a : Symbol} {α β γ γ' : Alternative} {added : List Symbol}
  {X : Symbol → Prop}

/-! ## One extraction -/

namespace Extractable

theorem productive (he : g.Extractable A s new) (hp : g.Productive) :
    (g.extracted A s new).Productive := by
  intro C hC
  rw [he.nonterminals_extracted, List.mem_append, List.mem_singleton] at hC
  rcases hC with hC | rfl
  · obtain ⟨w, hw⟩ := hp C hC
    have hne : C ≠ new := ne_of_mem_of_not_mem hC he.not_mem_nonterminals
    exact ⟨w, (he.yields_iff (by simpa using hne.symm)).mpr hw⟩
  · obtain ⟨γ, hγ⟩ := List.exists_mem_of_ne_nil _ he.tails_ne_nil
    obtain ⟨w, hw⟩ := hp.exists_yields γ
    exact ⟨w, he.yields_new_iff.mpr ⟨γ, hγ, hw⟩⟩

/-- What comes next in the new nonterminal comes next in some tail. -/
theorem next_append_new (he : g.Extractable A s new) (hp : g.Productive) (hα : new ∉ α)
    (hn : (g.extracted A s new).Next (α ++ [new]) X a) : ∃ γ ∈ g.tails A s, g.Next (α ++ γ) X a := by
  rcases (next_append_iff (he.productive hp)).mp hn with ⟨w, hw⟩ | ⟨hv, hn⟩
  · obtain ⟨γ, hγ⟩ := List.exists_mem_of_ne_nil _ he.tails_ne_nil
    exact ⟨γ, hγ, (next_append_iff hp).mpr (Or.inl ⟨w, (he.yields_iff hα).mp hw⟩)⟩
  · have hv := (he.yields_iff hα).mp hv
    rcases hn with ⟨w, hw⟩ | ⟨hw, ha⟩
    · obtain ⟨γ, hγ, hw⟩ := he.yields_new_iff.mp hw
      exact ⟨γ, hγ, (next_append_iff hp).mpr (.of_vanish hv (Or.inl ⟨w, hw⟩))⟩
    · obtain ⟨γ, hγ, hw⟩ := he.yields_new_iff.mp hw
      exact ⟨γ, hγ, (next_append_iff hp).mpr (.of_vanish hv (.of_vanish hw ha))⟩

theorem start_ne (he : g.Extractable A s new) (hd : g.Predictive start) : start ≠ new :=
  ne_of_mem_of_not_mem hd.start_mem he.not_mem_nonterminals

/-! ### What is predicted -/

theorem predicted_of_not_mem (he : g.Extractable A s new) (hd : g.Predictive start)
    (hC : C ∈ (g.extracted A s new).nonterminals) (hα : new ∉ α)
    (ha : (g.extracted A s new).Predicted start C α a) :
    g.Predicted start (mergedOwner A new C) α a :=
  (ha.of_yields fun _ => (he.yields_iff hα).mp).mono fun _ hf => he.followedBy_of_extracted (he.start_ne hd) hf hC

/-- What predicts an alternative that is left as it was predicted it before. -/
theorem predicted_old (he : g.Extractable A s new) (hd : g.Predictive start) (hC : C ≠ new)
    (hα : α ∈ g.alternatives C) (ha : (g.extracted A s new).Predicted start C α a) :
    g.Predicted start C α a := by
  have hmem : C ∈ (g.extracted A s new).nonterminals := by
    simp [he.nonterminals_extracted, mem_nonterminals_of_mem_alternatives hα]
  have := he.predicted_of_not_mem hd hmem (he.not_mem_alternative hα) ha
  rwa [mergedOwner_of_ne A hC] at this

/-- What predicts a tail at the new nonterminal comes next in it where what follows `A` comes after it. -/
theorem predicted_tail (he : g.Extractable A s new) (hd : g.Predictive start) (hγ : γ ∈ g.tails A s)
    (ha : (g.extracted A s new).Predicted start new γ a) : g.Predicted start A γ a := by
  have := he.predicted_of_not_mem hd (by simp [he.nonterminals_extracted]) (he.new_not_mem_tail hγ) ha
  rwa [mergedOwner_self] at this

/-- What predicts the merged alternative predicted one of those that it merges. -/
theorem predicted_merged (he : g.Extractable A s new) (hd : g.Predictive start)
    (ha : (g.extracted A s new).Predicted start A (g.sharedStart A s ++ [new]) a) :
    ∃ γ ∈ g.tails A s, g.Predicted start A ((g.sharedStart A s).concat γ) a := by
  have hA : A ∈ (g.extracted A s new).nonterminals := by simp [he.nonterminals_extracted, he.mem]
  obtain ⟨γ, hγ, hn⟩ := he.next_append_new hd.productive he.new_not_mem_sharedStart
    (ha.mono fun _ hf => he.followedBy_of_extracted (he.start_ne hd) hf hA)
  rw [mergedOwner_of_ne A he.ne] at hn
  exact ⟨γ, hγ, hn.of_yields fun _ => (yields_concat_iff he.canonical.epsilon_not_mem).mpr⟩

/-- What predicts an alternative that is not merged does not predict the merged one. -/
theorem not_predicted_merged (he : g.Extractable A s new) (hd : g.Predictive start)
    (hβ : β ∈ g.alternatives A) (hs : β.head? ≠ some s)
    (ha : (g.extracted A s new).Predicted start A β a) :
    ¬ (g.extracted A s new).Predicted start A (g.sharedStart A s ++ [new]) a := by
  intro hmerged
  obtain ⟨γ, hγ, hpγ⟩ := he.predicted_merged hd hmerged
  obtain ⟨hmem, hhead⟩ := he.mem_merged_iff.mpr ⟨γ, hγ, rfl⟩
  exact hs (hd.unique A a β hβ _ hmem (he.predicted_old hd he.ne hβ ha) hpγ ▸ hhead)

/-- A terminal predicts at most one tail. -/
theorem tail_eq (he : g.Extractable A s new) (hd : g.Predictive start) (hγ : γ ∈ g.tails A s)
    (hγ' : γ' ∈ g.tails A s) (ha : g.Predicted start A γ a) (ha' : g.Predicted start A γ' a) :
    γ = γ' := by
  have hconcat : ∀ {γ : Alternative} {b : Symbol},
      g.Next (g.sharedStart A s) (g.Next γ (g.FollowedBy start A)) b →
      g.Predicted start A ((g.sharedStart A s).concat γ) b := fun hn =>
    ((next_append_iff hd.productive).mpr hn).of_yields fun _ =>
      (yields_concat_iff hd.canonical.epsilon_not_mem).mpr
  -- some terminal predicts both alternatives: one with which a word of the common start begins, or `a`
  obtain ⟨b, hb⟩ : ∃ b, ∀ γ, g.Predicted start A γ a →
      g.Predicted start A ((g.sharedStart A s).concat γ) b := by
    obtain ⟨w, hw⟩ := hd.productive.exists_yields (g.sharedStart A s)
    cases w with
    | nil => exact ⟨a, fun γ ha => hconcat (.of_vanish hw ha)⟩
    | cons b w => exact ⟨b, fun γ _ => hconcat (Or.inl ⟨w, hw⟩)⟩
  have heq := hd.unique A b _ (he.mem_merged_iff.mpr ⟨γ, hγ, rfl⟩).1 _
    (he.mem_merged_iff.mpr ⟨γ', hγ', rfl⟩).1 (hb γ ha) (hb γ' ha')
  have hbody := congrArg body heq
  rw [he.body_concat_sharedStart, he.body_concat_sharedStart] at hbody
  exact (he.isCanonical_of_mem_tails hγ).eq_of_body (he.isCanonical_of_mem_tails hγ')
    (List.append_cancel_left hbody)

/-- An extraction keeps a grammar free of conflicts. -/
theorem predictive (he : g.Extractable A s new) (hd : g.Predictive start) :
    (g.extracted A s new).Predictive start := by
  refine ⟨he.canonical_extracted, he.productive hd.productive,
    by simp [he.nonterminals_extracted, hd.start_mem], fun C a α hα β hβ hpα hpβ => ?_⟩
  by_cases hnew : C = new
  · subst hnew
    rw [alternatives_extracted_new] at hα hβ
    exact he.tail_eq hd hα hβ (he.predicted_tail hd hα hpα) (he.predicted_tail hd hβ hpβ)
  have hold : ∀ {α β : Alternative}, α ∈ g.alternatives C → β ∈ g.alternatives C →
      (g.extracted A s new).Predicted start C α a → (g.extracted A s new).Predicted start C β a →
      α = β := fun hα hβ hpα hpβ =>
    hd.unique C a _ hα _ hβ (he.predicted_old hd hnew hα hpα) (he.predicted_old hd hnew hβ hpβ)
  by_cases hA : C = A
  · subst hA
    rcases he.mem_alternatives_self_iff.mp hα with rfl | ⟨hα, hsα⟩ <;>
      rcases he.mem_alternatives_self_iff.mp hβ with rfl | ⟨hβ, hsβ⟩
    · rfl
    · exact absurd hpα (he.not_predicted_merged hd hβ hsβ hpβ)
    · exact absurd hpβ (he.not_predicted_merged hd hα hsα hpα)
    · exact hold hα hβ hpα hpβ
  · rw [alternatives_extracted_of_ne hA hnew] at hα hβ
    exact hold hα hβ hpα hpβ

end Extractable

/-- Factoring keeps a grammar free of conflicts. -/
theorem Extractions.predictive (hx : Extractions g r added) (hd : g.Predictive start) :
    r.Predictive start := by
  induction hx with
  | refl => exact hd
  | tail _ he ih => exact Extractable.predictive ⟨he, ih.canonical⟩ ih

/-! ## The preparation -/

/-- Where every nonterminal of a canonical grammar is reachable and productive and the predictive table
has no conflicts, the preparation for a predictive table comes to an end, and the table of the result has
no conflicts either. -/
theorem prepareLL1_conflict_free (hg : g.Canonical) (hstart : start ∈ g.nonterminals)
    (hclean : (g.report start []).isClean = true)
    (ht : (g.predictionTable g.first (g.follow g.first start)).conflicts = []) :
    ∃ r, (∃ n, ∀ rounds ≥ n, g.prepareLL1 rounds = .ok r) ∧
      (r.predictionTable r.first (r.follow r.first start)).conflicts = [] := by
  obtain ⟨hd, hfollow⟩ := predictive_of_conflict_free hg hstart hclean ht
  obtain ⟨rank, hrank⟩ := hd.exists_descends hfollow
  obtain ⟨e, ⟨n, he⟩, -, hl⟩ := Layered.exists_eliminateLeftRecursion ⟨hd, hrank⟩
  obtain ⟨r, added, hr, hx, -⟩ := exists_leftFactor hl.canonical
  have hdr := hx.predictive hl.toPredictive
  refine ⟨r, ⟨n, fun rounds hn => ?_⟩,
    (conflicts_eq_nil_iff_predictive hdr.canonical hdr.productive hdr.start_mem).mpr hdr⟩
  rw [prepareLL1, he rounds hn]
  exact hr

/-- A statement with a mark in front that may be missing, or with one that is empty; the elimination
replaces the first, to which nothing leads then, and the second is factored. -/
def marked : Grammar := .ofList
  [("M", [["m"], ["ε"]]), ("S", [["M", "s"], ["E", "t", "S"], ["E", "u"]]), ("E", [["ε"]])]

theorem marked_conflict_free : marked.Canonical ∧ "S" ∈ marked.nonterminals ∧
    (marked.report "S" []).isClean = true ∧
    (marked.predictionTable marked.first (marked.follow marked.first "S")).conflicts = [] ∧
    ∃ r, (∃ n, ∀ rounds ≥ n, marked.prepareLL1 rounds = .ok r) ∧
      (r.predictionTable r.first (r.follow r.first "S")).conflicts = [] := by
  have hg : marked.Canonical := by decide +kernel
  have hstart : "S" ∈ marked.nonterminals := by decide +kernel
  have hclean : (marked.report "S" []).isClean = true := by decide +kernel
  have ht : (marked.predictionTable marked.first (marked.follow marked.first "S")).conflicts = [] := by
    decide +kernel
  exact ⟨hg, hstart, hclean, ht, prepareLL1_conflict_free hg hstart hclean ht⟩

end FormalLanguages.Grammar
