import FormalLanguages.Automaton.Completion
import FormalLanguages.Proofs.Automaton.Run
/-!
# Completion keeps the language

Results:
* `targets_complete`: missing transitions lead to the dead state, and so do all from the dead state.
* `WellFormed.outcome_complete`: where a run was not defined, it now ends without acceptance.
* `WellFormed.complete`: the completion of a well-formed automaton is well-formed.
-/
namespace FormalLanguages.Automaton

/-- The name of the state to which missing transitions lead. -/
def deadName (m : Automaton) : State := freshName "∅" "" m.states "'"

/-- The pairs of a state and a symbol whose transitions are added. -/
def addedPairs (m : Automaton) : List (State × Symbol) :=
  m.missing ++ m.alphabet.map fun a => (m.deadName, a)

variable {m : Automaton} {s t : State} {a : Symbol} {w : List Symbol}

theorem mem_missing_iff : (s, a) ∈ m.missing ↔
    s ∈ m.states ∧ a ∈ m.alphabet ∧ (m.targets s a).isEmpty = true := by
  simp only [missing, List.mem_filter, List.mem_flatMap, List.mem_map, Prod.mk.injEq]
  constructor
  · rintro ⟨⟨_, hs, _, ha, rfl, rfl⟩, he⟩
    exact ⟨hs, ha, he⟩
  · rintro ⟨hs, ha, he⟩
    exact ⟨⟨s, hs, a, ha, rfl, rfl⟩, he⟩

theorem complete_of_missing_eq_nil (h : m.missing = []) : m.complete = m := by
  rw [complete, if_pos (by simp [h])]

theorem complete_eq (h : m.missing ≠ []) : m.complete = { m with
    states := m.states ++ [m.deadName]
    transitions := m.addedPairs.foldl (fun t p => t.insert p (.singleton m.deadName)) m.transitions } := by
  rw [complete, if_neg (by simpa using h)]
  rfl

theorem deadName_not_mem (m : Automaton) : m.deadName ∉ m.states :=
  freshName_not_mem (by decide) m.states

/-- The name of the dead state is made of `∅` and primes. -/
theorem mem_deadName {c : Char} (h : c ∈ m.deadName.toList) : c = '∅' ∨ c = '\'' := by
  obtain ⟨k, hk, -⟩ := freshName_eq_candidateName "∅" (show addedPiece "" "'" ≠ "" by decide) m.states
  rw [deadName, hk, toList_candidateName] at h
  have h : c = '∅' ∨ ¬ k = 0 ∧ c = '\'' := by simpa [addedPiece] using h
  exact h.imp_right And.right

theorem get?_foldl_insert {κ α : Type} [DecidableEq κ] (v : α) (ks : List κ) (t : OrderedMap κ α)
    (k : κ) : (ks.foldl (fun t p => t.insert p v) t).get? k =
      if k ∈ ks then some v else t.get? k := by
  induction ks generalizing t with
  | nil => simp
  | cons l ks ih =>
    rw [List.foldl_cons, ih, OrderedMap.get?_insert]
    by_cases hk : k ∈ ks
    · simp [hk]
    · by_cases hl : k = l <;> simp [hk, hl]

theorem get?_complete (h : m.missing ≠ []) (k : State × Symbol) : m.complete.transitions.get? k =
    if k ∈ m.addedPairs then some (.singleton m.deadName) else m.transitions.get? k := by
  rw [complete_eq h]
  refine (get?_foldl_insert (.singleton m.deadName) m.addedPairs m.transitions k).trans ?_
  congr

theorem mem_addedPairs_iff : (s, a) ∈ m.addedPairs ↔
    (s, a) ∈ m.missing ∨ s = m.deadName ∧ a ∈ m.alphabet := by
  simp only [addedPairs, List.mem_append, List.mem_map, Prod.mk.injEq]
  refine or_congr_right ⟨?_, fun ⟨hs, ha⟩ => ⟨a, ha, hs.symm, rfl⟩⟩
  rintro ⟨_, ha, rfl, rfl⟩
  exact ⟨rfl, ha⟩

/-- Missing transitions lead to the dead state, and so do all from the dead state. -/
theorem targets_complete (h : m.missing ≠ []) (s : State) (a : Symbol) : m.complete.targets s a =
    if (s, a) ∈ m.missing ∨ s = m.deadName ∧ a ∈ m.alphabet then .singleton m.deadName
    else m.targets s a := by
  rw [targets, OrderedMap.getD, get?_complete h]
  simp only [mem_addedPairs_iff]
  split <;> rfl

theorem alphabet_complete (m : Automaton) : m.complete.alphabet = m.alphabet := by
  unfold complete
  split <;> rfl

theorem start_complete (m : Automaton) : m.complete.start = m.start := by
  unfold complete
  split <;> rfl

theorem accept_complete (m : Automaton) : m.complete.accept = m.accept := by
  unfold complete
  split <;> rfl

theorem spells_complete_iff : m.complete.Spells w ↔ m.Spells w := by
  rw [Spells, alphabet_complete]
  rfl

theorem mem_states_complete_iff (h : m.missing ≠ []) :
    s ∈ m.complete.states ↔ s ∈ m.states ∨ s = m.deadName := by
  simp [complete_eq h]

/-! ## Runs of the completion -/

theorem target?_complete_dead (h : m.missing ≠ []) (ha : a ∈ m.alphabet) :
    m.complete.target? m.deadName a = some m.deadName := by
  rw [target?, targets_complete h, if_pos (Or.inr ⟨rfl, ha⟩)]
  rfl

theorem target?_complete (h : m.missing ≠ []) (hs : s ∈ m.states) (ha : a ∈ m.alphabet) :
    m.complete.target? s a = some ((m.target? s a).getD m.deadName) := by
  have hdead : s ≠ m.deadName := ne_of_mem_of_not_mem hs m.deadName_not_mem
  rw [target?, targets_complete h]
  simp only [mem_missing_iff, hs, ha, true_and, hdead, false_and, or_false, target?, NameSet.isEmpty,
    NameSet.least?]
  cases hT : (m.targets s a).toList with
  | nil => simp [NameSet.toList_singleton]
  | cons t T => simp [hT]

theorem run?_complete_dead (h : m.missing ≠ []) (hw : m.Spells w) :
    m.complete.run? m.deadName w = some m.deadName := by
  induction w with
  | nil => rfl
  | cons a w ih =>
    obtain ⟨ha, hw⟩ := spells_cons_iff.mp hw
    rw [run?, target?_complete_dead h ha]
    exact ih hw

/-! ## Completeness -/

theorem isComplete_iff_missing : m.isComplete = true ↔ m.missing = [] := by
  simp only [isComplete, missing, List.all_eq_true, List.filter_eq_nil_iff, List.mem_flatMap,
    List.mem_map, Bool.not_eq_true', Bool.not_eq_true]
  constructor
  · rintro h ⟨s, a⟩ ⟨_, hs, _, ha, he⟩
    cases he
    exact h s hs a ha
  · exact fun h s hs a ha => h (s, a) ⟨s, hs, a, ha, rfl⟩

theorem isComplete_complete (m : Automaton) : m.complete.isComplete = true := by
  by_cases h : m.missing = []
  · rwa [complete_of_missing_eq_nil h, isComplete_iff_missing]
  · refine List.all_eq_true.mpr fun s hs => List.all_eq_true.mpr fun a ha => ?_
    rw [alphabet_complete] at ha
    have hdefined : ∃ t, m.complete.target? s a = some t := by
      rcases (mem_states_complete_iff h).mp hs with hs | rfl
      · exact ⟨_, target?_complete h hs ha⟩
      · exact ⟨_, target?_complete_dead h ha⟩
    obtain ⟨t, ht⟩ := hdefined
    have hne : (m.complete.targets s a).toList ≠ [] := List.ne_nil_of_mem (List.mem_of_mem_head? ht)
    simpa [NameSet.isEmpty] using hne

/-! ## Runs of well-formed automata -/

namespace WellFormed

theorem deadName_not_mem_accept (hm : m.WellFormed) : m.deadName ∉ m.accept := fun h =>
  m.deadName_not_mem (hm.accept_mem _ h)

theorem run?_complete (hm : m.WellFormed) (h : m.missing ≠ []) (hs : s ∈ m.states)
    (hw : m.Spells w) : m.complete.run? s w = some ((m.run? s w).getD m.deadName) := by
  induction w generalizing s with
  | nil => rfl
  | cons a w ih =>
    obtain ⟨ha, hw⟩ := spells_cons_iff.mp hw
    rw [run?, run?, target?_complete h hs ha]
    cases ht : m.target? s a with
    | none => exact run?_complete_dead h hw
    | some t => exact ih (hm.of_target? ht).2.2 hw

theorem run?_isSome_of_missing (hm : m.WellFormed) (h : m.missing = []) (hs : s ∈ m.states)
    (hw : m.Spells w) : (m.run? s w).isSome = true := by
  induction w generalizing s with
  | nil => rfl
  | cons a w ih =>
    obtain ⟨ha, hw⟩ := spells_cons_iff.mp hw
    cases ht : m.target? s a with
    | none =>
      have hempty : (m.targets s a).isEmpty = true := by
        simpa [target?, NameSet.least?, NameSet.isEmpty] using ht
      have hmissing := mem_missing_iff.mpr ⟨hs, ha, hempty⟩
      rw [h] at hmissing
      cases hmissing
    | some t =>
      rw [run?, ht]
      exact ih (hm.of_target? ht).2.2 hw

/-- Where a run was not defined, it now ends without acceptance. -/
theorem outcome_complete (hm : m.WellFormed) (hs : s ∈ m.states) (hw : m.Spells w) :
    m.complete.outcome s w = some ((m.outcome s w).getD false) := by
  by_cases h : m.missing = []
  · obtain ⟨t, ht⟩ := Option.isSome_iff_exists.mp (hm.run?_isSome_of_missing h hs hw)
    simp [complete_of_missing_eq_nil h, outcome, ht]
  · rw [outcome, outcome, hm.run?_complete h hs hw, accept_complete]
    cases m.run? s w with
    | none => simp [hm.deadName_not_mem_accept]
    | some t => rfl

theorem outcome_complete_dead (hm : m.WellFormed) (h : m.missing ≠ []) (hw : m.Spells w) :
    m.complete.outcome m.deadName w = some false := by
  rw [outcome, run?_complete_dead h hw, accept_complete]
  simp [hm.deadName_not_mem_accept]

theorem complete (hm : m.WellFormed) (hε : epsilon ∉ m.alphabet) : m.complete.WellFormed := by
  by_cases h : m.missing = []
  · rwa [complete_of_missing_eq_nil h]
  have hdead : m.deadName ∈ m.complete.states := (mem_states_complete_iff h).mpr (Or.inr rfl)
  have hmem : ∀ {s}, s ∈ m.states → s ∈ m.complete.states := fun hs =>
    (mem_states_complete_iff h).mpr (Or.inl hs)
  refine ⟨?_, ?_, ?_, ?_⟩
  · rw [complete_eq h]
    exact List.nodup_append.mpr ⟨hm.nodup, by simp, fun s hs t ht =>
      List.mem_singleton.mp ht ▸ ne_of_mem_of_not_mem hs m.deadName_not_mem⟩
  · rw [start_complete]
    exact hmem hm.start_mem
  · rw [accept_complete]
    exact fun s hs => hmem (hm.accept_mem s hs)
  · rintro ⟨⟨s, a⟩, T⟩ he
    have hget := (get?_complete h (s, a)).symm.trans (OrderedMap.mem_entries_iff.mp he)
    rw [alphabet_complete]
    split at hget
    · next hadded =>
      cases hget
      rcases mem_addedPairs_iff.mp hadded with hmissing | ⟨rfl, ha⟩
      · obtain ⟨hs, ha, -⟩ := mem_missing_iff.mp hmissing
        exact ⟨hmem hs, ha, ne_of_mem_of_not_mem ha hε, _, hdead, rfl⟩
      · exact ⟨hdead, ha, ne_of_mem_of_not_mem ha hε, _, hdead, rfl⟩
    · obtain ⟨hs, ha, hne, t, ht, hT⟩ := hm.transition _ (OrderedMap.mem_entries_iff.mpr hget)
      exact ⟨hmem hs, ha, hne, t, hmem ht, hT⟩

/-- The completion accepts the same words. -/
theorem accepts_complete_iff (hm : m.WellFormed) (hε : epsilon ∉ m.alphabet) (hw : m.Spells w) :
    m.complete.Accepts w ↔ m.Accepts w := by
  rw [accepts_iff_runAccepts (hm.complete hε).isDeterministic,
    accepts_iff_runAccepts hm.isDeterministic, runAccepts_iff_outcome, runAccepts_iff_outcome,
    start_complete, hm.outcome_complete hm.start_mem hw]
  rcases m.outcome m.start w with _ | _ | _ <;> simp

end WellFormed

end FormalLanguages.Automaton
