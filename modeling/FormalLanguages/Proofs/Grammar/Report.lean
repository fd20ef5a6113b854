import FormalLanguages.Grammar.Report
import FormalLanguages.Proofs.Grammar.Follow
/-!
# What a clean report says

A report lists what the start symbol leads to and what derives a word. A grammar is clean if these are all
its nonterminals and it uses none that is only declared from outside; that each is used follows.

Results:
* `mem_reachableFrom_iff`, `mem_productive_iff`: what is reachable, and what is productive.
* `Derives.reaches`: what is derived from the start symbol has only nonterminals that are reachable.
* `neverUsed_subset_unreachable`: what is never used is unreachable.
* `isClean_report_iff_forall`: a grammar is clean if every nonterminal is both, and all are defined.
* `exists_followedBy`: in a grammar where every nonterminal is productive, something follows each
  nonterminal that is reachable.
-/
namespace FormalLanguages.Grammar

variable {g : Grammar} {start A B : Symbol}

/-- The nonterminals in the alternatives of a nonterminal. -/
def successors (g : Grammar) (A : Symbol) : List Symbol :=
  (g.alternatives A).flatten.filter g.isNonterminal

/-- Every nonterminal yields some word. -/
def Productive (g : Grammar) : Prop := ∀ A ∈ g.nonterminals, ∃ w, g.Yields [A] w

/-! ## Reachable nonterminals -/

theorem mem_successors_iff :
    B ∈ g.successors A ↔ B ∈ g.nonterminals ∧ ∃ α ∈ g.alternatives A, B ∈ α := by
  rw [successors, List.mem_filter, List.mem_flatten, isNonterminal_iff]
  exact and_comm

theorem mem_reachableFrom_iff :
    A ∈ g.reachableFrom start ↔ start ∈ g.nonterminals ∧ Reaches g.successors start A := by
  have hnext : ∀ B ∈ start :: g.occurrences, ∀ C ∈ g.successors B, C ∈ start :: g.occurrences := by
    intro B _ C hC
    obtain ⟨-, α, hα, hmem⟩ := mem_successors_iff.mp hC
    exact List.mem_cons_of_mem _ (mem_occurrences_iff.mpr ⟨B, α, hα, hmem⟩)
  have hreach := mem_reachable_iff (x := A) (start :: g.occurrences) hnext
    (List.cons_subset_cons start (List.nil_subset _)) (Nat.le_refl _)
  unfold reachableFrom
  split
  · next hs =>
    rw [NameSet.mem_ofList]
    exact (hreach.trans (by simp)).trans (and_iff_right (isNonterminal_iff.mp hs)).symm
  · next hs => simp [isNonterminal_iff.not.mp hs]

/-- Every nonterminal of a sequence that is derived from the start symbol is reachable. -/
theorem Derives.reaches {β : List Symbol} (h : g.Derives [start] β) (hA : A ∈ β)
    (hn : A ∈ g.nonterminals) : Reaches g.successors start A := by
  induction h generalizing A with
  | refl =>
    obtain rfl := List.mem_singleton.mp hA
    exact .refl
  | tail _ hs ih =>
    cases hs with
    | @replace B α before after hα =>
      rw [List.mem_append, List.mem_append] at hA
      rcases hA with hA | hA | hA
      · exact ih (List.mem_append_left _ hA) hn
      · -- a symbol of the alternative that was put in
        have hB : Reaches g.successors start B := ih (by simp) (mem_nonterminals_of_mem_alternatives hα)
        exact hB.step (mem_successors_iff.mpr ⟨hn, α, hα, (Alternative.mem_body.mp hA).1⟩)
      · exact ih (List.mem_append_right _ (List.mem_cons_of_mem _ hA)) hn

/-! ## Productive nonterminals -/

theorem exists_yields_of_forall_mem {α : List Symbol}
    (h : ∀ s ∈ α, s ∈ g.nonterminals → s ≠ epsilon → ∃ w, g.Yields [s] w) : ∃ w, g.Yields α w := by
  induction α with
  | nil => exact ⟨[], .nil⟩
  | cons s α ih =>
    obtain ⟨w, hw⟩ := ih fun t ht => h t (List.mem_cons_of_mem _ ht)
    by_cases he : s = epsilon
    · exact ⟨w, he ▸ .vanish hw⟩
    by_cases hs : s ∈ g.nonterminals
    · obtain ⟨u, hu⟩ := h s List.mem_cons_self hs he
      exact ⟨u ++ w, hu.append hw⟩
    · exact ⟨s :: w, .terminal hs he hw⟩

/-- Where every nonterminal yields some word, so does every sequence. -/
theorem Productive.exists_yields (hp : g.Productive) (α : List Symbol) : ∃ w, g.Yields α w :=
  exists_yields_of_forall_mem fun s _ hs _ => hp s hs

/-- The rules for productive nonterminals: one needs those in an alternative. -/
def productiveRules (g : Grammar) : List (Rule Symbol) :=
  g.productions.map fun p => (p.1, p.2.filter fun s => s ≠ epsilon ∧ g.isNonterminal s)

theorem mem_productiveRules_iff {r : Rule Symbol} : r ∈ g.productiveRules ↔ ∃ A, ∃ α ∈ g.alternatives A,
    (A, α.filter fun s => s ≠ epsilon ∧ g.isNonterminal s) = r := by
  simp only [productiveRules, List.mem_map, Prod.exists, mem_productions_iff]

theorem Yields.follows {α w : List Symbol} (h : g.Yields α w) :
    ∀ s ∈ α, s ∈ g.nonterminals → s ≠ epsilon → Follows g.productiveRules s := by
  induction h with
  | nil => simp
  | vanish _ ih =>
    exact List.forall_mem_cons.mpr ⟨fun _ he => absurd rfl he, ih⟩
  | terminal hn _ _ ih =>
    exact List.forall_mem_cons.mpr ⟨fun h => absurd h hn, ih⟩
  | @nonterminal A α _ _ _ hα _ _ ihα ihβ =>
    refine List.forall_mem_cons.mpr ⟨fun _ _ => ?_, ihβ⟩
    refine .rule (mem_productiveRules_iff.mpr ⟨A, α, hα, rfl⟩) fun s hs => ?_
    obtain ⟨hs, hneeded⟩ := List.mem_filter.mp hs
    obtain ⟨he, hn⟩ := of_decide_eq_true hneeded
    exact ihα s hs (isNonterminal_iff.mp hn) he

theorem mem_productive_iff (hε : epsilon ∉ g.nonterminals) :
    A ∈ g.productive [] ↔ A ∈ g.nonterminals ∧ ∃ w, g.Yields [A] w := by
  have hrules : g.productive [] = .ofList (consequences g.productiveRules) := by
    simp [productive, productiveRules]
  rw [hrules, NameSet.mem_ofList, mem_consequences_iff]
  constructor
  · intro h
    induction h with
    | rule hr _ ih =>
      obtain ⟨A, α, hα, rfl⟩ := mem_productiveRules_iff.mp hr
      obtain ⟨w, hw⟩ := exists_yields_of_forall_mem fun s hs hn he =>
        (ih s (List.mem_filter.mpr ⟨hs, by simpa [he] using isNonterminal_iff.mpr hn⟩)).2
      exact ⟨mem_nonterminals_of_mem_alternatives hα, w, .of_alternative hα hw⟩
  · rintro ⟨hA, w, hw⟩
    exact hw.follows A List.mem_cons_self hA (ne_of_mem_of_not_mem hA hε)

theorem exists_mem_language (hg : g.Canonical) (hA : A ∈ g.productive []) : ∃ w, w ∈ g.language A := by
  obtain ⟨hA, w, hw⟩ := (mem_productive_iff hg.epsilon_not_mem).mp hA
  exact ⟨w, (mem_language_iff hg.epsilon_not_mem (hg.ne_epsilon hA)).mpr hw⟩

/-! ## Clean grammars -/

/-- A nonterminal to which the start symbol leads is used somewhere, or it is the start symbol. -/
theorem eq_start_or_used_of_reaches {extra : List Symbol} (h : Reaches g.successors start A) :
    A = start ∨ A ∈ (g.report start extra).used := by
  cases h with
  | refl => exact Or.inl rfl
  | step _ hA =>
    obtain ⟨hn, α, hα, hA⟩ := mem_successors_iff.mp hA
    refine Or.inr (NameSet.mem_ofList.mpr (List.mem_filter.mpr ⟨mem_occurrences_iff.mpr ⟨_, α, hα, hA⟩, ?_⟩))
    simp [isNonterminal_iff.mpr hn]

/-- What is never used is unreachable. -/
theorem neverUsed_subset_unreachable {extra : List Symbol} (h : A ∈ (g.report start extra).neverUsed) :
    A ∈ (g.report start extra).unreachable := by
  obtain ⟨hA, hne⟩ := NameSet.mem_erase.mp h
  obtain ⟨hA, hused⟩ := NameSet.mem_diff.mp hA
  refine NameSet.mem_diff.mpr ⟨hA, fun hr => ?_⟩
  exact (eq_start_or_used_of_reaches (mem_reachableFrom_iff.mp hr).2).elim hne hused

/-- A grammar is clean if only defined nonterminals are used and each of them is reachable and productive;
that each is used follows. -/
theorem isClean_report_iff_forall {extra : List Symbol} : (g.report start extra).isClean = true ↔
    (∀ s ∈ extra, s ∉ g.nonterminals → s ∉ g.occurrences) ∧
      ∀ A ∈ g.nonterminals, A ∈ g.reachableFrom start ∧ A ∈ g.productive extra := by
  have hundefined : (g.report start extra).undefined.isEmpty = true ↔
      ∀ s ∈ extra, s ∉ g.nonterminals → s ∉ g.occurrences := by
    simp only [NameSet.isEmpty_iff, GrammarReport.undefined, report, NameSet.mem_diff, NameSet.mem_ofList,
      List.mem_filter, decide_eq_true_eq, isNonterminal_iff]
    constructor
    · intro h s hs hn ho
      exact h s ⟨⟨ho, Or.inr hs⟩, hn⟩
    · rintro h s ⟨⟨ho, hs⟩, hn⟩
      exact h s (hs.resolve_left hn) hn ho
  have hunreachable : (g.report start extra).unreachable.isEmpty = true ↔
      ∀ A ∈ g.nonterminals, A ∈ g.reachableFrom start := by
    simp [NameSet.isEmpty_iff, GrammarReport.unreachable, report]
  have hproductive : (g.report start extra).nonProductive.isEmpty = true ↔
      ∀ A ∈ g.nonterminals, A ∈ g.productive extra := by
    simp [NameSet.isEmpty_iff, GrammarReport.nonProductive, report]
  have hused : (g.report start extra).unreachable.isEmpty = true →
      (g.report start extra).neverUsed.isEmpty = true := by
    simp only [NameSet.isEmpty_iff]
    exact fun h A hA => h A (neverUsed_subset_unreachable hA)
  simp only [GrammarReport.isClean, Bool.and_eq_true]
  rw [and_iff_left_of_imp fun h => hused h.2, hundefined, hunreachable, hproductive, and_assoc]
  exact and_congr_right fun _ => forall₂_and.symm

/-- Without nonterminals from outside, a grammar is clean if every nonterminal is reachable and yields some
word. -/
theorem isClean_report_iff (hε : epsilon ∉ g.nonterminals) :
    (g.report start []).isClean = true ↔
      (∀ A ∈ g.nonterminals, start ∈ g.nonterminals ∧ Reaches g.successors start A) ∧
        g.Productive := by
  simp only [isClean_report_iff_forall, mem_reachableFrom_iff, mem_productive_iff hε]
  simp +contextual [Productive, forall₂_and]

/-- A terminal or the end marker follows each nonterminal to which the start symbol leads. -/
theorem exists_followedBy (hg : g.Canonical) (hp : g.Productive) (h : Reaches g.successors start A) :
    ∃ a, g.FollowedBy start A a := by
  induction h with
  | refl => exact ⟨endMarker, .atEnd⟩
  | step _ hC ih =>
    obtain ⟨b, hb⟩ := ih
    obtain ⟨-, α, hα, hC⟩ := mem_successors_iff.mp hC
    obtain ⟨before, after, rfl⟩ := List.append_of_mem hC
    obtain ⟨w, hw⟩ := hp.exists_yields after
    cases w with
    | nil => exact ⟨b, .last hα hw hb⟩
    | cons a w => exact ⟨a, .inside hα (hw.begins rfl (hg.epsilon_not_mem_after hα) hg)⟩

end FormalLanguages.Grammar
