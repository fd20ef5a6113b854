import FormalLanguages.Proofs.Grammar.Conflicts
import FormalLanguages.Proofs.Grammar.Unfolding
/-!
# Elimination of left recursion in a grammar without conflicts

In a grammar without conflicts a nonterminal to which its fronts lead back has only that one alternative, so
it derives nothing. Where every nonterminal derives a word, fronts have no cycle, and all that the elimination
of left recursion does is to replace a nonterminal `B` in front of an alternative `B γ` of `A` by its
alternatives. What follows `A` is unchanged or less, and a terminal that predicts `δ γ` predicted `B γ` among
the alternatives of `A` and `δ` among those of `B`; so it predicts no other alternative.

Results:
* `exists_next_of_fronts`: where fronts lead from one nonterminal to another, what predicts an alternative of
  the latter comes next in the former.
* `Predictive.eq_of_fronts`, `Predictive.exists_descends`: a cycle of fronts admits only one alternative, so
  there is none.
* `conflicts_of_leftRecursive`: where every nonterminal is reachable and productive, left recursion shows as a
  conflict.
* `Unfolding.followedBy`, `Unfolding.predicted_concat`: what follows and what is predicted after a
  substitution was so before it.
* `Unfolding.layered`: a substitution keeps a grammar free of conflicts and its fronts falling in rank.
* `Layered.exists_eliminateLeftRecursion`: the elimination comes to an end with no new nonterminal and no
  conflict.
-/
namespace FormalLanguages

namespace Grammar

open Relation

variable {g h : Grammar} {start A B C a : Symbol} {α γ δ : Alternative} {w : List Symbol}
  {rank : Symbol → Nat}

/-! ## Fronts and predictions -/

/-- What comes next in a front comes next in the alternative. -/
theorem Next.of_front {X : Symbol → Prop} (hp : g.Productive) {before after : List Symbol}
    (hv : g.Yields before []) (hn : g.Next [B] (g.Next after X) a) :
    g.Next (before ++ B :: after) X a :=
  (next_append_iff hp).mpr (.of_vanish hv ((next_append_iff (α := [B]) hp).mpr hn))

/-- Where fronts lead to `A`, they lead to a terminal that predicts an alternative of `A`, whatever follows
where they begin. -/
theorem exists_next_of_fronts (hg : g.Canonical) (hp : g.Productive) {α : Alternative}
    (hα : α ∈ g.alternatives A) (h : ReflTransGen g.Front C A) :
    ∀ x, g.FollowedBy start C x → ∃ a, g.Next [C] (· = x) a ∧ g.Predicted start A α a := by
  induction h using ReflTransGen.head_induction_on with
  | refl =>
    intro x hx
    obtain ⟨a, ha⟩ := hp.exists_next α x
    exact ⟨a, ha.of_alternative hα, ha.of_eq hx⟩
  | head hfront _ ih =>
    intro x hx
    obtain ⟨-, before, after, hβ, hv⟩ := hfront
    obtain ⟨y, hy⟩ := hp.exists_next after x
    obtain ⟨a, ha, hpredicted⟩ := ih y ((hy.of_eq hx).followedBy hg hβ)
    exact ⟨a, (Next.of_front hp hv (ha.of_eq hy)).of_alternative hβ, hpredicted⟩

namespace Predictive

/-- A nonterminal to which its fronts lead back has only one alternative. -/
theorem eq_of_fronts (hd : g.Predictive start) {x : Symbol} (hx : g.FollowedBy start A x)
    {α : Alternative} (hα : α ∈ g.alternatives A) {before after : List Symbol}
    (hβ : before ++ B :: after ∈ g.alternatives A) (hv : g.Yields before [])
    (h : ReflTransGen g.Front B A) : α = before ++ B :: after := by
  obtain ⟨y, hy⟩ := hd.productive.exists_next after x
  have hy : g.Next after (g.FollowedBy start A) y := hy.of_eq hx
  obtain ⟨a, ha, hpredicted⟩ :=
    exists_next_of_fronts hd.canonical hd.productive hα h y (hy.followedBy hd.canonical hβ)
  exact hd.unique A a α hα _ hβ hpredicted (Next.of_front hd.productive hv (ha.of_eq hy))

/-- In a sequence that yields a word there is no nonterminal to which its fronts lead back. -/
theorem not_transGen_front (hd : g.Predictive start)
    (hfollow : ∀ A ∈ g.nonterminals, ∃ a, g.FollowedBy start A a) (h : g.Yields α w) :
    ∀ A ∈ α, ¬ TransGen g.Front A A := by
  have hmem : ∀ {A : Symbol}, TransGen g.Front A A → A ∈ g.nonterminals := fun h =>
    have ⟨_, hfront, _⟩ := TransGen.head'_iff.mp h
    hfront.mem_nonterminals
  induction h with
  | nil => simp
  | vanish _ ih =>
    exact List.forall_mem_cons.mpr ⟨fun h => hd.canonical.epsilon_not_mem (hmem h), ih⟩
  | terminal hn _ _ ih => exact List.forall_mem_cons.mpr ⟨fun h => hn (hmem h), ih⟩
  | @nonterminal A α β _ _ hα _ _ ihα ihβ =>
    refine List.forall_mem_cons.mpr ⟨fun h => ?_, ihβ⟩
    obtain ⟨B, hfront, hback⟩ := TransGen.head'_iff.mp h
    obtain ⟨x, hx⟩ := hfollow A (hmem h)
    have hcycle : TransGen g.Front B B := TransGen.tail' hback hfront
    obtain ⟨-, before, after, hβ, hv⟩ := hfront
    have hB : B ∈ α := hd.eq_of_fronts hx hα hβ hv hback ▸ (by simp)
    exact ihα B hB hcycle

/-- The nonterminals have a rank that falls along fronts. -/
theorem exists_descends (hd : g.Predictive start)
    (hfollow : ∀ A ∈ g.nonterminals, ∃ a, g.FollowedBy start A a) : ∃ rank, g.Descends rank :=
  Grammar.exists_descends fun A hA => by
    obtain ⟨B, hfront, -⟩ := TransGen.head'_iff.mp hA
    obtain ⟨w, hw⟩ := hd.productive A hfront.mem_nonterminals
    exact hd.not_transGen_front hfollow hw A List.mem_cons_self hA

end Predictive

/-! ## Left recursion and conflicts -/

/-- Where every nonterminal is derived from the start symbol in some place and derives some word, left
recursion shows in the predictive table: there is a conflict. -/
theorem conflicts_of_leftRecursive (hg : g.Canonical) (hstart : start ∈ g.nonterminals)
    (hreach : ∀ A ∈ g.nonterminals, ∃ before after, g.Derives [start] (before ++ A :: after))
    (hwords : ∀ A ∈ g.nonterminals, ∃ w, w ∈ g.language A) (hl : g.leftRecursive ≠ []) :
    (g.predictionTable g.first (g.follow g.first start)).conflicts ≠ [] := by
  intro ht
  have hp : g.Productive := fun A hA =>
    have ⟨w, hw⟩ := hwords A hA
    ⟨w, (mem_language_iff hg.epsilon_not_mem (hg.ne_epsilon hA)).mp hw⟩
  have hfollow : ∀ A ∈ g.nonterminals, ∃ a, g.FollowedBy start A a := fun A hA =>
    have ⟨_, _, hder⟩ := hreach A hA
    exists_followedBy hg hp (hder.reaches (by simp) hA)
  -- without conflicts fronts fall in rank, and so nothing is left recursive
  have hd : g.Predictive start := (conflicts_eq_nil_iff_predictive hg hp hstart).mp ht
  obtain ⟨rank, hrank⟩ := hd.exists_descends hfollow
  exact hl ((leftRecursive_eq_nil_iff hg).mpr hrank.not_transGen)

/-- A cycle behind a prefix that vanishes, where all words are empty. -/
def fading : Grammar := .ofList [("L", [["N", "M"], ["ε"]]), ("M", [["L", "N"]]), ("N", [["ε"]])]

theorem fading_conflicts : fading.Canonical ∧ "L" ∈ fading.nonterminals ∧
    (∀ A ∈ fading.nonterminals, ∃ before after, fading.Derives ["L"] (before ++ A :: after)) ∧
    (∀ A ∈ fading.nonterminals, ∃ w, w ∈ fading.language A) ∧ fading.leftRecursive ≠ [] ∧
    (fading.predictionTable fading.first (fading.follow fading.first "L")).conflicts ≠ [] := by
  have hg : fading.Canonical := by decide +kernel
  have hstart : "L" ∈ fading.nonterminals := by decide +kernel
  have hreach : ∀ A ∈ fading.nonterminals, ∃ before after,
      fading.Derives ["L"] (before ++ A :: after) := by
    have hNM : fading.Derives ["L"] ["N", "M"] :=
      .of_alternative (α := ["N", "M"]) (by decide +kernel)
    rw [show fading.nonterminals = ["L", "M", "N"] by decide +kernel]
    simp only [List.forall_mem_cons, List.not_mem_nil, false_implies, implies_true, and_true]
    exact ⟨⟨[], [], .refl _⟩, ⟨["N"], [], hNM⟩, ⟨[], ["M"], hNM⟩⟩
  have hproductive : ∀ A ∈ fading.nonterminals, A ∈ fading.productive [] := by decide +kernel
  have hwords : ∀ A ∈ fading.nonterminals, ∃ w, w ∈ fading.language A := fun A hA =>
    exists_mem_language hg (hproductive A hA)
  have hl : fading.leftRecursive ≠ [] := by decide +kernel
  exact ⟨hg, hstart, hreach, hwords, hl, conflicts_of_leftRecursive hg hstart hreach hwords hl⟩

/-! ## Substitutions -/

/-- A grammar without conflicts where a rank falls along fronts. -/
structure Layered (g : Grammar) (start : Symbol) (rank : Symbol → Nat) : Prop extends
    g.Predictive start where
  descends : g.Descends rank

namespace Unfolding

theorem productive (hu : Unfolding g h A B) (hp : g.Productive) : h.Productive := fun C hC =>
  have ⟨w, hw⟩ := hp C (hu.nonterminals ▸ hC)
  ⟨w, hu.yields_iff.mpr hw⟩

/-- What follows a nonterminal after a substitution followed it before. -/
theorem followedBy (hu : Unfolding g h A B) (hg : g.Canonical) (hp : g.Productive)
    (hf : h.FollowedBy start C a) (hC : C ∈ h.nonterminals) : g.FollowedBy start C a := by
  refine FollowedBy.transfer (ρ := id) (hu.productive hp) rfl (fun D C before after hC hα a hn => ?_) hf hC
  have hn := hn.of_yields fun _ => hu.yields_iff.mp
  rcases hu.place_cases hg hC hα with hα | ⟨rfl, γ, after', hγ, hδ, rfl⟩ | ⟨rfl, δ, before', hγ, -, -⟩
  · exact hn.followedBy hg hα
  · -- what comes after the alternative of `B` follows `B`
    exact (((next_append_iff hp).mp hn).mono fun b hb => hb.followedBy_head hg hγ).followedBy hg hδ
  · exact hn.followedBy hg (show (B :: before') ++ C :: after ∈ _ from hγ)

theorem predicted (hu : Unfolding g h A B) (hg : g.Canonical) (hp : g.Productive)
    (hα : α ∈ h.alternatives C) (ha : h.Predicted start C α a) : g.Predicted start C α a := by
  have hC := mem_nonterminals_of_mem_alternatives hα
  exact (ha.of_yields fun _ => hu.yields_iff.mp).mono fun _ hf => hu.followedBy hg hp hf hC

/-- What predicts a new alternative predicted the one that it comes from, and the one that was put into
it. -/
theorem predicted_concat (hu : Unfolding g h A B) (hg : g.Canonical) (hp : g.Productive)
    (hγ : B :: γ ∈ g.alternatives A) (hδ : δ ∈ g.alternatives B)
    (hα : δ.concat γ ∈ h.alternatives A) (ha : h.Predicted start A (δ.concat γ) a) :
    g.Predicted start A (B :: γ) a ∧ g.Predicted start B δ a := by
  have ha := hu.predicted hg hp hα ha
  have hn : g.Next δ (g.Next γ (g.FollowedBy start A)) a :=
    (next_append_iff hp).mp (ha.of_yields fun _ => (yields_concat_iff hg.epsilon_not_mem).mp)
  exact ⟨(next_append_iff (α := [B]) hp).mpr (hn.of_alternative hδ),
    hn.mono fun b hb => hb.followedBy_head hg hγ⟩

/-- A substitution keeps a grammar free of conflicts. -/
theorem predictive (hu : Unfolding g h A B) (hd : g.Predictive start) : h.Predictive start := by
  have hg := hd.canonical
  have hp := hd.productive
  refine ⟨hu.canonical hg, hu.productive hp, hu.nonterminals ▸ hd.start_mem,
    fun C a α hα β hβ hpα hpβ => ?_⟩
  have hpα' := hu.predicted hg hp hα hpα
  have hpβ' := hu.predicted hg hp hβ hpβ
  rcases hu.cases hα with ⟨hα', hheadα⟩ | ⟨rfl, γ, δ, hγ, hδ, rfl⟩ <;>
    rcases hu.cases hβ with ⟨hβ', hheadβ⟩ | ⟨he, γ', δ', hγ', hδ', rfl⟩
  · exact hd.unique C a α hα' β hβ' hpα' hpβ'
  · subst he
    have hsource := (hu.predicted_concat hg hp hγ' hδ' hβ hpβ).1
    refine absurd ?_ (hheadα rfl)
    rw [hd.unique C a α hα' _ hγ' hpα' hsource, List.head?_cons]
  · have hsource := (hu.predicted_concat hg hp hγ hδ hα hpα).1
    refine absurd ?_ (hheadβ rfl)
    rw [hd.unique C a β hβ' _ hγ hpβ' hsource, List.head?_cons]
  · obtain ⟨hsource, hput⟩ := hu.predicted_concat hg hp hγ hδ hα hpα
    obtain ⟨hsource', hput'⟩ := hu.predicted_concat hg hp hγ' hδ' hβ hpβ
    obtain ⟨-, rfl⟩ := List.cons.inj (hd.unique C a _ hγ _ hγ' hsource hsource')
    rw [hd.unique B a δ hδ δ' hδ' hput hput']

theorem layered (hu : Unfolding g h A B) (hl : g.Layered start rank) : h.Layered start rank :=
  ⟨hu.predictive hl.toPredictive, hu.descends hl.canonical hl.descends⟩

end Unfolding

/-- The elimination comes to an end without a new nonterminal and without a conflict. -/
theorem Layered.exists_eliminateLeftRecursion (hl : g.Layered start rank) :
    ∃ r, (∃ n, ∀ rounds ≥ n, g.eliminateLeftRecursion rounds = .ok r) ∧
      r.nonterminals = g.nonterminals ∧ r.Layered start rank :=
  exists_eliminateLeftRecursion_of_unfoldings (P := (Layered · start rank))
    (fun hl => ⟨hl.canonical, hl.descends⟩) (fun hu => hu.layered) hl

end Grammar

end FormalLanguages
