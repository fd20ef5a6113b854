import FormalLanguages.Proofs.Automaton.Completion
/-!
# The dead state

The dead state has a name of its own, so no transition of the given automaton begins or ends there. A path of
the completion is therefore a path of the given automaton, until it comes to the dead state; there it stays, and
accepts nothing. This needs no determinism: the automaton may have `ε`-moves and several targets.

Results:
* `Confined.targets_complete_of_mem`: what has targets keeps them.
* `Confined.of_path_complete`: a path of the completion leads to the dead state, or was there before.
* `Confined.accepts_complete_iff`: the completion accepts the same words.
* `isDeterministic_complete`: completing makes no choices.
* `complete_refines`: what completing an automaton changes, and what it does not.
-/
namespace FormalLanguages.Automaton

/-- The start, the accepting states and both ends of each transition are declared. -/
structure Confined (m : Automaton) : Prop where
  start_mem : m.start ∈ m.states
  accept_mem : ∀ s ∈ m.accept.toList, s ∈ m.states
  ends_mem : ∀ e ∈ m.transitions.entries, ∀ t ∈ e.2.toList, e.1.1 ∈ m.states ∧ t ∈ m.states

instance (m : Automaton) : Decidable m.Confined :=
  decidable_of_iff (m.start ∈ m.states ∧ (∀ s ∈ m.accept.toList, s ∈ m.states) ∧
    ∀ e ∈ m.transitions.entries, ∀ t ∈ e.2.toList, e.1.1 ∈ m.states ∧ t ∈ m.states)
    ⟨fun ⟨h1, h2, h3⟩ => ⟨h1, h2, h3⟩, fun ⟨h1, h2, h3⟩ => ⟨h1, h2, h3⟩⟩

variable {m : Automaton} {s t : State} {a : Symbol} {w : List Symbol}

/-! ## Transitions -/

/-- A target in the completion is the dead state or was a target before. -/
theorem mem_targets_complete (hmissing : m.missing ≠ []) (h : t ∈ m.complete.targets s a) :
    t = m.deadName ∨ t ∈ m.targets s a := by
  rw [targets_complete hmissing] at h
  split at h
  · exact Or.inl (NameSet.mem_singleton.mp h)
  · exact Or.inr h

namespace Confined

theorem of_mem_targets (hm : m.Confined) (h : t ∈ m.targets s a) : s ∈ m.states ∧ t ∈ m.states := by
  obtain ⟨T, hT, ht⟩ := mem_targets_iff.mp h
  exact hm.ends_mem _ (OrderedMap.mem_entries_iff.mpr hT) t ht

/-- The dead state has no transition before it is added. -/
theorem not_mem_targets_deadName (hm : m.Confined) : t ∉ m.targets m.deadName a := fun h =>
  m.deadName_not_mem (hm.of_mem_targets h).1

/-- No transition leaves the dead state. -/
theorem eq_deadName_of_mem_targets (hm : m.Confined) (hmissing : m.missing ≠ [])
    (h : t ∈ m.complete.targets m.deadName a) : t = m.deadName :=
  (mem_targets_complete hmissing h).resolve_right hm.not_mem_targets_deadName

/-- What has targets keeps them. -/
theorem targets_complete_of_mem (hm : m.Confined) (h : t ∈ m.targets s a) :
    m.complete.targets s a = m.targets s a := by
  by_cases hmissing : m.missing = []
  · rw [complete_of_missing_eq_nil hmissing]
  rw [targets_complete hmissing, if_neg]
  rintro (hnone | ⟨rfl, -⟩)
  · exact NameSet.isEmpty_iff.mp (mem_missing_iff.mp hnone).2.2 t h
  · exact hm.not_mem_targets_deadName h

/-! ## Paths -/

theorem path_complete (hm : m.Confined) (h : m.Path s w t) : m.complete.Path s w t := by
  induction h with
  | refl => exact .refl
  | silent ht _ ih => exact .silent (hm.targets_complete_of_mem ht ▸ ht) ih
  | read ha ht _ ih => exact .read ha (hm.targets_complete_of_mem ht ▸ ht) ih

/-- A path that comes to the dead state stays there. -/
theorem eq_deadName_of_path (hm : m.Confined) (hmissing : m.missing ≠ []) (h : m.complete.Path s w t)
    (hs : s = m.deadName) : t = m.deadName := by
  induction h with
  | refl => exact hs
  | silent ht _ ih | read _ ht _ ih => exact ih (hm.eq_deadName_of_mem_targets hmissing (hs ▸ ht))

/-- A path of the completion leads to the dead state, or was there before. -/
theorem of_path_complete (hm : m.Confined) (hmissing : m.missing ≠ []) (h : m.complete.Path s w t) :
    t = m.deadName ∨ m.Path s w t := by
  induction h with
  | refl => exact Or.inr .refl
  | silent ht h ih =>
    rcases mem_targets_complete hmissing ht with rfl | ht
    · exact Or.inl (hm.eq_deadName_of_path hmissing h rfl)
    · exact ih.imp_right (.silent ht)
  | read ha ht h ih =>
    rcases mem_targets_complete hmissing ht with rfl | ht
    · exact Or.inl (hm.eq_deadName_of_path hmissing h rfl)
    · exact ih.imp_right (.read ha ht)

/-- The completion accepts the same words. -/
theorem accepts_complete_iff (hm : m.Confined) : m.complete.Accepts w ↔ m.Accepts w := by
  by_cases hmissing : m.missing = []
  · rw [complete_of_missing_eq_nil hmissing]
  rw [Accepts, Accepts, start_complete, accept_complete]
  refine exists_congr fun t => and_congr_right fun hacc => ⟨fun h => ?_, hm.path_complete⟩
  -- the dead state does not accept
  refine (hm.of_path_complete hmissing h).resolve_left ?_
  rintro rfl
  exact m.deadName_not_mem (hm.accept_mem _ hacc)

end Confined

/-! ## The automaton that is completed -/

/-- Completing adds one transition at most for each state and symbol, and none on `ε`. -/
theorem isDeterministic_complete (hε : epsilon ∉ m.alphabet) (hdet : m.isDeterministic = true) :
    m.complete.isDeterministic = true := by
  by_cases hmissing : m.missing = []
  · rwa [complete_of_missing_eq_nil hmissing]
  refine List.all_eq_true.mpr fun ⟨⟨s, a⟩, T⟩ he => ?_
  have hget := (get?_complete hmissing (s, a)).symm.trans (OrderedMap.mem_entries_iff.mp he)
  split at hget
  · next hadded =>
    cases hget
    have ha : a ∈ m.alphabet := by
      rcases mem_addedPairs_iff.mp hadded with hnone | ⟨-, ha⟩
      · exact (mem_missing_iff.mp hnone).2.1
      · exact ha
    simp [ne_of_mem_of_not_mem ha hε, NameSet.size, NameSet.toList_singleton]
  · exact List.all_eq_true.mp hdet _ (OrderedMap.mem_entries_iff.mpr hget)

theorem complete_of_isComplete (h : m.isComplete = true) : m.complete = m :=
  complete_of_missing_eq_nil (isComplete_iff_missing.mp h)

theorem states_complete_cases (m : Automaton) :
    m.complete.states = m.states ∨ ∃ d, d ∉ m.states ∧ m.complete.states = m.states ++ [d] := by
  by_cases hmissing : m.missing = []
  · exact Or.inl (by rw [complete_of_missing_eq_nil hmissing])
  · exact Or.inr ⟨m.deadName, m.deadName_not_mem, by rw [complete_eq hmissing]⟩

/-- Completing an automaton makes it complete and keeps its words, its start, alphabet and accepting states, the
targets that there are, and determinism. At most one state is added, with a name that no other has, and nothing
changes where nothing is missing; so nothing changes the second time. -/
theorem complete_refines (hm : m.Confined) (hε : epsilon ∉ m.alphabet) :
    m.complete.isComplete = true ∧ (∀ w, m.complete.Accepts w ↔ m.Accepts w) ∧
    m.complete.start = m.start ∧ m.complete.alphabet = m.alphabet ∧ m.complete.accept = m.accept ∧
    (m.complete.states = m.states ∨ ∃ d, d ∉ m.states ∧ m.complete.states = m.states ++ [d]) ∧
    (m.isComplete = true → m.complete = m) ∧
    (∀ s a, (∃ t, t ∈ m.targets s a) → m.complete.targets s a = m.targets s a) ∧
    (m.isDeterministic = true → m.complete.isDeterministic = true) ∧
    m.complete.complete = m.complete :=
  ⟨m.isComplete_complete, fun _ => hm.accepts_complete_iff, m.start_complete, m.alphabet_complete,
    m.accept_complete, m.states_complete_cases, complete_of_isComplete,
    fun _ _ ⟨_, ht⟩ => hm.targets_complete_of_mem ht, isDeterministic_complete hε,
    complete_of_isComplete m.isComplete_complete⟩

/-- An automaton with an `ε`-move, two targets of one transition, and states with the names that a dead state
takes first. -/
def haunted : Automaton where
  states := ["∅", "p", "∅'"]
  alphabet := ["a", "b"]
  start := "p"
  accept := .ofList ["∅'"]
  transitions := .ofList [(("p", epsilon), .singleton "∅"), (("∅", "a"), .ofList ["∅", "∅'"]),
    (("∅'", "b"), .singleton "p"), (("p", "c"), .singleton "p")]

theorem haunted_complete_refines :
    haunted.Confined ∧ epsilon ∉ haunted.alphabet ∧
    haunted.complete.states = ["∅", "p", "∅'", "∅''"] ∧
    haunted.complete.isComplete = true ∧ (∀ w, haunted.complete.Accepts w ↔ haunted.Accepts w) ∧
    haunted.complete.start = haunted.start ∧ haunted.complete.alphabet = haunted.alphabet ∧
    haunted.complete.accept = haunted.accept ∧
    (haunted.complete.states = haunted.states ∨
      ∃ d, d ∉ haunted.states ∧ haunted.complete.states = haunted.states ++ [d]) ∧
    (haunted.isComplete = true → haunted.complete = haunted) ∧
    (∀ s a, (∃ t, t ∈ haunted.targets s a) → haunted.complete.targets s a = haunted.targets s a) ∧
    (haunted.isDeterministic = true → haunted.complete.isDeterministic = true) ∧
    haunted.complete.complete = haunted.complete := by
  have hm : haunted.Confined := by decide +kernel
  have hε : epsilon ∉ haunted.alphabet := by decide
  exact ⟨hm, hε, by decide +kernel, complete_refines hm hε⟩

end FormalLanguages.Automaton
