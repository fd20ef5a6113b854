import FormalLanguages.Proofs.Automaton.Run
import Mathlib.Data.List.Induction
/-!
# The part of an automaton that can be reached

Results:
* `mem_reachableStates_iff`: the search finds the states to which transitions lead from the start.
* `WellFormed.mem_states_trim_iff`: what is left of a well-formed automaton are the states to which words
  lead.
* `outcome_trim`: nothing changes for a run that begins at a state that is left.
-/
namespace FormalLanguages.Automaton

/-- The states to which transitions lead from a state. -/
def nextStates (m : Automaton) (s : State) : List State :=
  (m.transitions.entries.filter (·.1.1 = s)).flatMap (·.2.toList)

variable {m : Automaton} {s t : State} {a : Symbol} {w : List Symbol}

theorem mem_nextStates_iff : t ∈ m.nextStates s ↔ ∃ a, t ∈ m.targets s a := by
  simp only [nextStates, List.mem_flatMap, List.mem_filter, decide_eq_true_eq, mem_targets_iff,
    ← OrderedMap.mem_entries_iff]
  constructor
  · intro h
    obtain ⟨⟨⟨_, a⟩, T⟩, ⟨he, rfl⟩, ht⟩ := h
    exact ⟨a, T, he, ht⟩
  · intro h
    obtain ⟨a, T, he, ht⟩ := h
    exact ⟨((s, a), T), ⟨he, rfl⟩, ht⟩

theorem mem_reachableStates_iff : s ∈ m.reachableStates ↔ Reaches m.nextStates m.start s := by
  have hnext : ∀ t ∈ m.start :: m.allTargets, ∀ u ∈ m.nextStates t, u ∈ m.start :: m.allTargets := by
    intro t _ u hu
    obtain ⟨a, hu⟩ := mem_nextStates_iff.mp hu
    exact List.mem_cons_of_mem _ (mem_allTargets hu)
  have h : s ∈ m.reachableStates ↔ ∃ r ∈ [m.start], Reaches m.nextStates r s :=
    mem_reachable_iff (m.start :: m.allTargets) hnext (by simp) (by simp)
  simpa using h

theorem start_mem_reachableStates (m : Automaton) : m.start ∈ m.reachableStates :=
  mem_reachableStates_iff.mpr .refl

theorem mem_reachableStates_of_targets (hs : s ∈ m.reachableStates) (ht : t ∈ m.targets s a) :
    t ∈ m.reachableStates :=
  mem_reachableStates_iff.mpr
    ((mem_reachableStates_iff.mp hs).step (mem_nextStates_iff.mpr ⟨a, ht⟩))

/-- In a well-formed automaton the states that can be reached are those to which words lead. -/
theorem WellFormed.mem_reachableStates_iff_reached (hm : m.WellFormed) :
    s ∈ m.reachableStates ↔ m.Reached s := by
  rw [mem_reachableStates_iff]
  constructor
  · intro h
    induction h with
    | refl => exact ⟨[], fun _ h => (nomatch h), rfl⟩
    | step _ ht ih =>
      obtain ⟨w, hw, hrun⟩ := ih
      obtain ⟨a, ht⟩ := mem_nextStates_iff.mp ht
      have htarget := (target?_eq_some_iff hm.isDeterministic).mpr ht
      refine ⟨w ++ [a], spells_append_iff.mpr ⟨hw, ?_⟩, ?_⟩
      · exact spells_cons_iff.mpr ⟨(hm.of_target? htarget).2.1, fun _ h => nomatch h⟩
      · rw [run?_append, hrun, Option.bind_some, run?_singleton, htarget]
  · intro h
    obtain ⟨w, -, hrun⟩ := h
    -- by the last symbol, as the search goes forward from the start
    induction w using List.reverseRecOn generalizing s with
    | nil => cases hrun; exact .refl
    | append_singleton w a ih =>
      rw [run?_append] at hrun
      obtain ⟨t, ht, hrun⟩ := Option.bind_eq_some_iff.mp hrun
      rw [run?_singleton] at hrun
      exact (ih ht).step
        (mem_nextStates_iff.mpr ⟨a, (target?_eq_some_iff hm.isDeterministic).mp hrun⟩)

/-! ## What is left -/

theorem mem_accept_trim_iff : s ∈ m.trim.accept ↔ s ∈ m.accept ∧ s ∈ m.reachableStates := by
  simp [trim]

theorem targets_trim (hs : s ∈ m.reachableStates) (a : Symbol) :
    m.trim.targets s a = m.targets s a := by
  rw [targets, targets, OrderedMap.getD, OrderedMap.getD, trim, OrderedMap.get?_filter]
  cases m.transitions.get? (s, a) <;> simp [hs, Option.filter_some]

theorem target?_trim (hs : s ∈ m.reachableStates) (a : Symbol) :
    m.trim.target? s a = m.target? s a := by
  rw [target?, targets_trim hs, target?]

theorem run?_trim (hs : s ∈ m.reachableStates) (w : List Symbol) : m.trim.run? s w = m.run? s w := by
  induction w generalizing s with
  | nil => rfl
  | cons a w ih =>
    rw [run?, run?, target?_trim hs]
    exact Option.bind_congr fun t ht =>
      ih (mem_reachableStates_of_targets hs (List.mem_of_mem_head? ht))

theorem run?_mem_reachableStates (hs : s ∈ m.reachableStates) (h : m.run? s w = some t) :
    t ∈ m.reachableStates := by
  induction w generalizing s with
  | nil => cases h; exact hs
  | cons a w ih =>
    obtain ⟨u, hu, h⟩ := Option.bind_eq_some_iff.mp h
    exact ih (mem_reachableStates_of_targets hs (List.mem_of_mem_head? hu)) h

theorem outcome_trim (hs : s ∈ m.reachableStates) (w : List Symbol) :
    m.trim.outcome s w = m.outcome s w := by
  rw [outcome, outcome, run?_trim hs]
  refine Option.map_congr fun t ht => ?_
  simp [mem_accept_trim_iff, run?_mem_reachableStates hs ht]

namespace WellFormed

theorem mem_states_of_mem_reachableStates (hm : m.WellFormed) (hs : s ∈ m.reachableStates) :
    s ∈ m.states := by
  obtain ⟨w, -, h⟩ := hm.mem_reachableStates_iff_reached.mp hs
  exact (hm.run?_mem hm.start_mem h).1

/-- What is left are the states to which words lead. -/
theorem mem_states_trim_iff (hm : m.WellFormed) : s ∈ m.trim.states ↔ m.Reached s := by
  rw [← hm.mem_reachableStates_iff_reached, trim, List.mem_filter, decide_eq_true_eq]
  exact ⟨And.right, fun h => ⟨hm.mem_states_of_mem_reachableStates h, h⟩⟩

theorem trim (hm : m.WellFormed) : m.trim.WellFormed where
  nodup := hm.nodup.filter _
  start_mem := by simpa [Automaton.trim] using ⟨hm.start_mem, m.start_mem_reachableStates⟩
  accept_mem s hs := by
    obtain ⟨hs, hr⟩ := mem_accept_trim_iff.mp hs
    simpa [Automaton.trim] using ⟨hm.accept_mem s hs, hr⟩
  transition e he := by
    obtain ⟨he, hr⟩ := List.mem_filter.mp he
    obtain ⟨hs, ha, hε, t, ht, hT⟩ := hm.transition e he
    have hr : e.1.1 ∈ m.reachableStates := of_decide_eq_true hr
    have htarget : t ∈ m.targets e.1.1 e.1.2 :=
      mem_targets_iff.mpr ⟨e.2, OrderedMap.mem_entries_iff.mp he, by simp [hT]⟩
    have htr := mem_reachableStates_of_targets hr htarget
    exact ⟨by simpa [Automaton.trim] using ⟨hs, hr⟩, ha, hε, t,
      by simpa [Automaton.trim] using ⟨ht, htr⟩, hT⟩

end WellFormed

end FormalLanguages.Automaton
