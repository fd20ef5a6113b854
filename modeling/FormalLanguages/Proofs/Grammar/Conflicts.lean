import FormalLanguages.Proofs.Grammar.Prediction
import FormalLanguages.Proofs.Grammar.Reading
import FormalLanguages.Proofs.Grammar.Report
import FormalLanguages.Proofs.Grouping
/-!
# Grammars without conflicts

Where every nonterminal yields some word, FIRST and FOLLOW sets can be told from words alone: a terminal
comes next in a sequence if a word of the sequence begins with it, or if the sequence vanishes and the
terminal comes after it (`Next`). So the terminals that predict an alternative are those that come next in
it where FOLLOW comes after it, and two grammars that yield the same differ only in what follows.

Results:
* `next_append_iff`: what comes next in two sequences, one after the other.
* `Next.followedBy`: what comes next after a place follows the nonterminal at the place.
* `FollowedBy.transfer`: what follows in one grammar follows in another if this holds place by place.
* `conflicts_eq_nil_iff_predictive`: the table has no conflicts exactly if each terminal predicts at most
  one alternative of each nonterminal.
-/
namespace FormalLanguages

/-- A list without repetitions has at most one entry exactly if all its members are equal. -/
theorem length_le_one_iff_of_nodup {α : Type} {xs : List α} (hd : xs.Nodup) :
    xs.length ≤ 1 ↔ ∀ x ∈ xs, ∀ y ∈ xs, x = y := by
  match xs, hd with
  | [], _ => simp
  | [x], _ => simp
  | x :: y :: xs, hd =>
    have hxy : x ≠ y := fun he => (List.nodup_cons.mp hd).1 (he ▸ List.mem_cons_self)
    refine ⟨fun hlen => absurd hlen (by simp), fun h => absurd (h x ?_ y ?_) hxy⟩ <;> simp

namespace PredictionTable

/-- Where no cell has two alternatives there are no conflicts. -/
theorem conflicts_eq_nil {t : PredictionTable} (h : ∀ A a, (t.cell A a).length ≤ 1) :
    t.conflicts = [] := by
  simp only [conflicts, List.map_eq_nil_iff, List.filter_eq_nil_iff, decide_eq_true_eq]
  rintro ⟨⟨A, a⟩, cell⟩ hmem
  have hcell : t.cell A a = cell := by
    rw [PredictionTable.cell, OrderedMap.getD, OrderedMap.mem_entries_iff.mp hmem, Option.getD_some]
  exact Nat.not_lt.mpr (hcell ▸ h A a)

end PredictionTable

namespace Grammar

variable {g h : Grammar} {start A B a : Symbol} {α β γ : List Symbol} {X Y : Symbol → Prop}

/-! ## What comes next -/

/-- A terminal comes first in a word of the sequence, or the sequence vanishes and the terminal comes
after it. -/
def Next (g : Grammar) (α : List Symbol) (X : Symbol → Prop) (a : Symbol) : Prop :=
  (∃ w, g.Yields α (a :: w)) ∨ g.Yields α [] ∧ X a

theorem Next.mono (hXY : ∀ a, X a → Y a) (h : g.Next α X a) : g.Next α Y a :=
  h.imp_right (And.imp_right (hXY a))

theorem Next.of_eq {x : Symbol} (hx : X x) (h : g.Next α (· = x) a) : g.Next α X a :=
  Next.mono (X := (· = x)) (fun _ he => Eq.symm he ▸ hx) h

theorem Next.of_yields (hαβ : ∀ w, g.Yields α w → h.Yields β w) (hn : g.Next α X a) : h.Next β X a :=
  Or.imp (fun ⟨w, hw⟩ => ⟨w, hαβ _ hw⟩) (And.imp_left (hαβ _)) hn

theorem Next.of_vanish (hα : g.Yields α []) (ha : X a) : g.Next α X a := Or.inr ⟨hα, ha⟩

theorem next_append_iff (hp : g.Productive) : g.Next (α ++ β) X a ↔ g.Next α (g.Next β X) a := by
  constructor
  · rintro (⟨w, hw⟩ | ⟨hv, ha⟩)
    · obtain ⟨u, v, huv, hu, hv⟩ := yields_append_iff.mp hw
      cases u with
      | nil => exact .of_vanish hu (Or.inl ⟨w, huv ▸ hv⟩)
      | cons b u =>
        obtain ⟨rfl, -⟩ := List.cons.inj huv
        exact Or.inl ⟨u, hu⟩
    · obtain ⟨hu, hv⟩ := yields_append_nil_iff.mp hv
      exact .of_vanish hu (.of_vanish hv ha)
  · rintro (⟨w, hw⟩ | ⟨hα, ⟨w, hw⟩ | ⟨hβ, ha⟩⟩)
    · obtain ⟨v, hv⟩ := hp.exists_yields β
      exact Or.inl ⟨w ++ v, hw.append hv⟩
    · exact Or.inl ⟨w, hα.append hw⟩
    · exact .of_vanish (hα.append hβ) ha

/-- Something comes next if something comes after the sequence. -/
theorem Productive.exists_next (hp : g.Productive) (α : List Symbol) (x : Symbol) :
    ∃ a, g.Next α (· = x) a := by
  obtain ⟨w, hw⟩ := hp.exists_yields α
  cases w with
  | nil => exact ⟨x, .of_vanish hw rfl⟩
  | cons a w => exact ⟨a, Or.inl ⟨w, hw⟩⟩

theorem Next.of_alternative {α : Alternative} (hα : α ∈ g.alternatives A) (hn : g.Next α X a) :
    g.Next [A] X a :=
  hn.of_yields fun _ => .of_alternative hα

/-! ## What follows -/

/-- What comes next after a place follows the nonterminal at the place. -/
theorem Next.followedBy (hg : g.Canonical) {before after : List Symbol}
    (hα : before ++ B :: after ∈ g.alternatives A) (hn : g.Next after (g.FollowedBy start A) a) :
    g.FollowedBy start B a := by
  rcases hn with ⟨w, hw⟩ | ⟨hv, ha⟩
  · exact .inside hα (hw.begins rfl (hg.epsilon_not_mem_after hα) hg)
  · exact .last hα hv ha

theorem Next.followedBy_head (hg : g.Canonical) {γ : Alternative} (hγ : B :: γ ∈ g.alternatives A)
    (hn : g.Next γ (g.FollowedBy start A) a) : g.FollowedBy start B a :=
  hn.followedBy hg (show [] ++ B :: γ ∈ _ from hγ)

theorem Begins.exists_yields (hp : g.Productive) (hb : g.Begins α a) : ∃ w, g.Yields α (a :: w) := by
  induction hb with
  | @here a β hn he =>
    obtain ⟨w, hw⟩ := hp.exists_yields β
    exact ⟨w, .terminal hn he hw⟩
  | @inside A a α β hα _ ih =>
    obtain ⟨u, hu⟩ := ih
    obtain ⟨v, hv⟩ := hp.exists_yields β
    exact ⟨u ++ v, .nonterminal hα hu hv⟩
  | after _ hv _ ih =>
    obtain ⟨w, hw⟩ := ih
    exact ⟨w, hv.append hw⟩

/-- What follows a nonterminal in one grammar follows its counterpart in another, if at every place what
comes next goes over when what follows the owner of the place does. -/
theorem FollowedBy.transfer (hp : h.Productive) {ρ : Symbol → Symbol} (hstart : ρ start = start)
    (hplace : ∀ A B before after, B ∈ h.nonterminals → before ++ B :: after ∈ h.alternatives A →
      ∀ a, h.Next after (g.FollowedBy start (ρ A)) a → g.FollowedBy start (ρ B) a)
    (hf : h.FollowedBy start B a) (hB : B ∈ h.nonterminals) : g.FollowedBy start (ρ B) a :=
  .transfer_places hstart (fun A B before after hB hα a ha =>
    hplace A B before after hB hα a (ha.imp_left (·.exists_yields hp))) hf hB

/-! ## Predictions -/

/-- The terminal predicts an alternative of `A`. -/
def Predicted (g : Grammar) (start A : Symbol) (α : Alternative) (a : Symbol) : Prop :=
  g.Next α (g.FollowedBy start A) a

/-- A canonical grammar of productive nonterminals, where a terminal predicts at most one alternative of
each. -/
structure Predictive (g : Grammar) (start : Symbol) : Prop where
  canonical : g.Canonical
  productive : g.Productive
  start_mem : start ∈ g.nonterminals
  unique : ∀ A a, ∀ α ∈ g.alternatives A, ∀ β ∈ g.alternatives A,
    g.Predicted start A α a → g.Predicted start A β a → α = β

theorem mem_cell_iff_predicted (hg : g.Canonical) (hp : g.Productive) {α : Alternative} :
    α ∈ (g.ownTable start).cell A a ↔ α ∈ g.alternatives A ∧ g.Predicted start A α a := by
  rw [mem_cell_iff hg]
  refine and_congr_right fun hα => or_congr_left ⟨fun hb => hb.exists_yields hp, ?_⟩
  rintro ⟨w, hw⟩
  rcases hg.cases hα with rfl | ⟨-, hε⟩
  · cases (yields_epsilon_iff hg.epsilon_not_mem).mp hw
  · exact hw.begins rfl hε hg

/-- The table has no conflicts exactly if no terminal predicts two alternatives. -/
theorem conflicts_eq_nil_iff_predictive (hg : g.Canonical) (hp : g.Productive)
    (hstart : start ∈ g.nonterminals) :
    (g.ownTable start).conflicts = [] ↔ g.Predictive start := by
  have hnodup : ∀ A a, ((g.ownTable start).cell A a).Nodup := fun A a => by
    rw [ownTable, cell_predictionTable]
    exact nodup_eraseDups _
  constructor
  · intro ht
    refine ⟨hg, hp, hstart, fun A a α hα β hβ hpα hpβ => ?_⟩
    have hlen := PredictionTable.length_cell_le_one ht A a
    exact (length_le_one_iff_of_nodup (hnodup A a)).mp hlen
      α ((mem_cell_iff_predicted hg hp).mpr ⟨hα, hpα⟩) β ((mem_cell_iff_predicted hg hp).mpr ⟨hβ, hpβ⟩)
  · intro hd
    refine PredictionTable.conflicts_eq_nil fun A a => ?_
    refine (length_le_one_iff_of_nodup (hnodup A a)).mpr fun α hα β hβ => ?_
    obtain ⟨hα, hpα⟩ := (mem_cell_iff_predicted hg hp).mp hα
    obtain ⟨hβ, hpβ⟩ := (mem_cell_iff_predicted hg hp).mp hβ
    exact hd.unique A a α hα β hβ hpα hpβ

/-- A clean grammar whose predictive table has no conflicts is predictive, and something follows each of its
nonterminals. -/
theorem predictive_of_conflict_free (hg : g.Canonical) (hstart : start ∈ g.nonterminals)
    (hclean : (g.report start []).isClean = true) (ht : (g.ownTable start).conflicts = []) :
    g.Predictive start ∧ ∀ A ∈ g.nonterminals, ∃ a, g.FollowedBy start A a := by
  obtain ⟨hreach, hp⟩ := (isClean_report_iff hg.epsilon_not_mem).mp hclean
  exact ⟨(conflicts_eq_nil_iff_predictive hg hp hstart).mp ht,
    fun A hA => exists_followedBy hg hp (hreach A hA).2⟩

end Grammar

end FormalLanguages
