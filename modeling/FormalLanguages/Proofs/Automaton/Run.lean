import FormalLanguages.Proofs.Automaton.Path
/-!
# Runs of deterministic automata

A deterministic automaton has no choice, so that its paths are its runs. A word tells two states apart
when the runs from them end differently: only one of them is defined, or both are and only one ends in
an accepting state.

Results:
* `accepts_iff_runAccepts`: the words that a deterministic automaton accepts are those of its runs.
* `tellsApart_iff`: a word tells two states apart exactly if its outcomes from them differ.
* `WellFormed.run?_mem`: runs of a well-formed automaton stay among its states.
-/
namespace FormalLanguages.Automaton

/-- A deterministic automaton, perhaps a partial one, all parts of which are declared: each transition
leads from a state by a symbol of the alphabet to one state. -/
structure WellFormed (m : Automaton) : Prop where
  nodup : m.states.Nodup
  start_mem : m.start ∈ m.states
  accept_mem : ∀ s ∈ m.accept.toList, s ∈ m.states
  transition : ∀ e ∈ m.transitions.entries, e.1.1 ∈ m.states ∧ e.1.2 ∈ m.alphabet ∧
    e.1.2 ≠ epsilon ∧ ∃ t ∈ m.states, e.2 = .singleton t

instance (m : Automaton) : Decidable m.WellFormed :=
  decidable_of_iff (m.states.Nodup ∧ m.start ∈ m.states ∧ (∀ s ∈ m.accept.toList, s ∈ m.states) ∧
    ∀ e ∈ m.transitions.entries, e.1.1 ∈ m.states ∧ e.1.2 ∈ m.alphabet ∧ e.1.2 ≠ epsilon ∧
      ∃ t ∈ m.states, e.2 = .singleton t)
    ⟨fun ⟨h1, h2, h3, h4⟩ => ⟨h1, h2, h3, h4⟩, fun ⟨h1, h2, h3, h4⟩ => ⟨h1, h2, h3, h4⟩⟩

/-- A word of the input symbols. -/
def Spells (m : Automaton) (w : List Symbol) : Prop := ∀ a ∈ w, a ∈ m.alphabet

/-- How a run ends: not at all, or with acceptance or without. -/
def outcome (m : Automaton) (s : State) (w : List Symbol) : Option Bool :=
  (m.run? s w).map (· ∈ m.accept)

/-- The run from just one of the states is defined, or both are and just one ends in an accepting
state. -/
def TellsApart (m : Automaton) (w : List Symbol) (s t : State) : Prop :=
  ¬ ((m.run? s w).isSome ↔ (m.run? t w).isSome) ∨
    ∃ s' t', m.run? s w = some s' ∧ m.run? t w = some t' ∧ ¬ (s' ∈ m.accept ↔ t' ∈ m.accept)

/-- Some word leads from the start to the state. -/
def Reached (m : Automaton) (s : State) : Prop := ∃ w, m.Spells w ∧ m.run? m.start w = some s

variable {m : Automaton} {s t u : State} {a : Symbol} {v w : List Symbol}

theorem spells_cons_iff : m.Spells (a :: w) ↔ a ∈ m.alphabet ∧ m.Spells w := List.forall_mem_cons

theorem spells_append_iff : m.Spells (v ++ w) ↔ m.Spells v ∧ m.Spells w := List.forall_mem_append

theorem run?_append (s : State) (v w : List Symbol) :
    m.run? s (v ++ w) = (m.run? s v).bind fun t => m.run? t w := by
  induction v generalizing s with
  | nil => rfl
  | cons a v ih =>
    simp only [List.cons_append, run?]
    cases m.target? s a with
    | none => rfl
    | some t => exact ih t

theorem run?_singleton (s : State) (a : Symbol) : m.run? s [a] = m.target? s a := by
  cases h : m.target? s a <;> simp [run?, h]

/-! ## Outcomes -/

theorem outcome_eq_true_iff : m.outcome s w = some true ↔ ∃ t ∈ m.accept, m.run? s w = some t := by
  simp only [outcome, Option.map_eq_some_iff, decide_eq_true_eq]
  exact exists_congr fun _ => and_comm

theorem runAccepts_iff_outcome : m.RunAccepts w ↔ m.outcome m.start w = some true :=
  outcome_eq_true_iff.symm

theorem isSome_outcome : (m.outcome s w).isSome = (m.run? s w).isSome := by
  simp [outcome]

/-- An outcome is settled by whether there is one and whether it is acceptance. -/
theorem outcome_eq_outcome_iff : m.outcome s v = m.outcome t w ↔
    ((m.run? s v).isSome ↔ (m.run? t w).isSome) ∧
      (m.outcome s v = some true ↔ m.outcome t w = some true) := by
  rw [← isSome_outcome, ← isSome_outcome]
  rcases m.outcome s v with _ | _ | _ <;> rcases m.outcome t w with _ | _ | _ <;> simp

theorem outcome_cons (s : State) (a : Symbol) (w : List Symbol) :
    m.outcome s (a :: w) = (m.target? s a).bind fun t => m.outcome t w := by
  rw [outcome, run?]
  cases m.target? s a <;> rfl

theorem tellsApart_iff : m.TellsApart w s t ↔ m.outcome s w ≠ m.outcome t w := by
  unfold TellsApart outcome
  cases m.run? s w <;> cases m.run? t w <;> simp

/-! ## Paths are runs -/

theorem of_isDeterministic (hm : m.isDeterministic = true) {T : NameSet}
    (hT : m.transitions.get? (s, a) = some T) : a ≠ epsilon ∧ T.toList.length ≤ 1 := by
  have he := List.all_eq_true.mp hm _ (OrderedMap.mem_entries_iff.mpr hT)
  exact (Bool.and_eq_true_iff.mp he).imp bne_iff_ne.mp of_decide_eq_true

/-- Where each transition has one target, the least one is the only one. -/
theorem target?_eq_some_iff (hm : m.isDeterministic = true) : m.target? s a = some t ↔
    t ∈ m.targets s a := by
  refine ⟨fun h => List.mem_of_mem_head? h, fun h => ?_⟩
  obtain ⟨T, hT, ht⟩ := mem_targets_iff.mp h
  obtain ⟨u, hu⟩ := List.length_eq_one_iff.mp
    (Nat.le_antisymm (of_isDeterministic hm hT).2 (List.length_pos_of_mem (NameSet.mem_def.mp ht)))
  have htu : t = u := by simpa [NameSet.mem_def, hu] using ht
  have htargets : m.targets s a = T := by rw [targets, OrderedMap.getD, hT]; rfl
  rw [target?, htargets, NameSet.least?, hu, htu]
  rfl

theorem not_mem_targets_epsilon (hm : m.isDeterministic = true) : t ∉ m.targets s epsilon := by
  intro h
  obtain ⟨T, hT, -⟩ := mem_targets_iff.mp h
  exact (of_isDeterministic hm hT).1 rfl

/-- The paths of a deterministic automaton are its runs. -/
theorem path_iff_run? (hm : m.isDeterministic = true) : m.Path s w t ↔ m.run? s w = some t := by
  constructor
  · intro h
    induction h with
    | refl => rfl
    | silent ht => exact absurd ht (not_mem_targets_epsilon hm)
    | read _ ht _ ih => rw [run?, (target?_eq_some_iff hm).mpr ht]; exact ih
  · intro h
    induction w generalizing s with
    | nil => cases h; exact .refl
    | cons a w ih =>
      obtain ⟨u, hu, h⟩ := Option.bind_eq_some_iff.mp h
      have ha : a ≠ epsilon := by
        rintro rfl
        exact not_mem_targets_epsilon hm ((target?_eq_some_iff hm).mp hu)
      exact .read ha ((target?_eq_some_iff hm).mp hu) (ih h)

/-- A deterministic automaton accepts the words that its runs accept. -/
theorem accepts_iff_runAccepts (hm : m.isDeterministic = true) : m.Accepts w ↔ m.RunAccepts w :=
  exists_congr fun _ => and_congr_right fun _ => path_iff_run? hm

/-! ## Well-formed automata -/

namespace WellFormed

theorem isDeterministic (hm : m.WellFormed) : m.isDeterministic = true := by
  refine List.all_eq_true.mpr fun e he => ?_
  obtain ⟨-, -, hε, t, -, ht⟩ := hm.transition e he
  simp [hε, ht, NameSet.size, NameSet.toList_singleton]

theorem of_target? (hm : m.WellFormed) (h : m.target? s a = some t) :
    s ∈ m.states ∧ a ∈ m.alphabet ∧ t ∈ m.states := by
  obtain ⟨T, hT, ht⟩ := mem_targets_iff.mp ((target?_eq_some_iff hm.isDeterministic).mp h)
  obtain ⟨hs, ha, -, u, hu, rfl⟩ := hm.transition _ (OrderedMap.mem_entries_iff.mpr hT)
  obtain rfl := NameSet.mem_singleton.mp ht
  exact ⟨hs, ha, hu⟩

/-- The transitions are given by the targets. -/
theorem get?_eq_some_iff (hm : m.WellFormed) {T : NameSet} :
    m.transitions.get? (s, a) = some T ↔ ∃ t, m.target? s a = some t ∧ .singleton t = T := by
  simp only [target?_eq_some_iff hm.isDeterministic, mem_targets_iff]
  constructor
  · intro hT
    obtain ⟨-, -, -, t, -, rfl⟩ := hm.transition _ (OrderedMap.mem_entries_iff.mpr hT)
    exact ⟨t, ⟨_, hT, NameSet.mem_singleton.mpr rfl⟩, rfl⟩
  · rintro ⟨t, ⟨U, hU, ht⟩, rfl⟩
    obtain ⟨-, -, -, u, -, rfl⟩ := hm.transition _ (OrderedMap.mem_entries_iff.mpr hU)
    rwa [NameSet.mem_singleton.mp ht]

/-- Runs stay among the states, on words of the input symbols. -/
theorem run?_mem (hm : m.WellFormed) (hs : s ∈ m.states) (h : m.run? s w = some t) :
    t ∈ m.states ∧ m.Spells w := by
  induction w generalizing s with
  | nil => cases h; exact ⟨hs, fun _ h => nomatch h⟩
  | cons a w ih =>
    obtain ⟨u, hu, h⟩ := Option.bind_eq_some_iff.mp h
    obtain ⟨-, ha, hu⟩ := hm.of_target? hu
    obtain ⟨ht, hw⟩ := ih hu h
    exact ⟨ht, spells_cons_iff.mpr ⟨ha, hw⟩⟩

end WellFormed

end FormalLanguages.Automaton
