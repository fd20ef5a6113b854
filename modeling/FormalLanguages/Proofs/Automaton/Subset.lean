import FormalLanguages.Proofs.Automaton.Naming
import FormalLanguages.Proofs.Automaton.Path
import Mathlib.Data.List.Sublists
/-!
# The subset construction keeps the language

The sets that the construction goes through are told apart by their names, as long as no state has a
comma in its name: the members of a set that is not empty are read off its name. The construction
comes to an end for any names, since each new set has a new name.

Results:
* `setName_injective`: sets with the same name are equal.
* `explores_subsets`: no set is pending when the construction ends.
* `mem_subsets_iff`: the sets are those to which the words lead, without the empty one.
* `run?_determinize`: the run of the deterministic automaton goes through the names of the sets.
* `determinize_equivalent`: the result is deterministic, every state of it is reached, and it accepts the
  same words.
-/
namespace FormalLanguages.Automaton

/-- The start state and the targets, declared or not, have no comma in their names. -/
def PlainNames (m : Automaton) : Prop := ∀ s, s = m.start ∨ s ∈ m.allTargets → ',' ∉ s.toList

instance (m : Automaton) : Decidable m.PlainNames :=
  decidable_of_iff (∀ s ∈ m.start :: m.allTargets, ',' ∉ s.toList)
    (forall_congr' fun _ => by rw [List.mem_cons])

/-- All sets of the start state and of targets but the empty one. -/
def possibleSets (m : Automaton) : List NameSet :=
  ((m.start :: m.allTargets).sublists.map NameSet.ofList).filter fun T => !T.isEmpty

variable {m : Automaton} {s t : State} {a : Symbol} {w : List Symbol} {T U : NameSet}

theorem mem_possibleSets_iff : T ∈ m.possibleSets ↔
    (∃ s, s ∈ T) ∧ ∀ s ∈ T, s = m.start ∨ s ∈ m.allTargets := by
  rw [possibleSets, List.mem_filter, Bool.not_eq_true', ← Bool.not_eq_true,
    NameSet.not_isEmpty_iff, List.mem_map, and_comm]
  refine and_congr_right fun _ => ⟨?_, fun h => ?_⟩
  · rintro ⟨xs, hxs, rfl⟩ s hs
    exact List.mem_cons.mp ((List.mem_sublists.mp hxs).subset (NameSet.mem_ofList.mp hs))
  · refine ⟨(m.start :: m.allTargets).filter (· ∈ T), List.mem_sublists.mpr List.filter_sublist, ?_⟩
    refine NameSet.ext fun s => ?_
    rw [NameSet.mem_ofList, List.mem_filter, decide_eq_true_eq, List.mem_cons]
    exact ⟨And.right, fun hs => ⟨h s hs, hs⟩⟩

theorem length_possibleSets_le (m : Automaton) :
    m.possibleSets.length ≤ Nat.pow 2 (m.allTargets.length + 1) := by
  refine (List.length_filter_le _ _).trans (Nat.le_of_eq ?_)
  rw [List.length_map, List.length_sublists, List.length_cons]; rfl

/-- Sets of plain names are told apart by their names. -/
theorem setName_injective (hm : m.PlainNames) (hT : T ∈ m.possibleSets) (hU : U ∈ m.possibleSets)
    (h : setName T = setName U) : T = U := by
  have hparts : ∀ {T : NameSet}, T ∈ m.possibleSets → ∀ s, s ∈ nameParts (setName T) ↔ s ∈ T := by
    intro T hT s
    obtain ⟨hne, hplain⟩ := mem_possibleSets_iff.mp hT
    exact mem_nameParts_setName_iff hne fun r hr => hm r (hplain r hr)
  exact NameSet.ext fun s => by rw [← hparts hT, h, hparts hU]

/-! ## The sets -/

theorem mem_successors_iff :
    U ∈ m.successors T ↔ ∃ a ∈ m.alphabet, m.step T a = U ∧ ∃ s, s ∈ U := by
  rw [successors, List.mem_filter, Bool.not_eq_true', ← Bool.not_eq_true,
    NameSet.not_isEmpty_iff, List.mem_map]
  constructor
  · intro h
    obtain ⟨⟨a, ha, hU⟩, hs⟩ := h
    exact ⟨a, ha, hU, hs⟩
  · intro h
    obtain ⟨a, ha, hU, hs⟩ := h
    exact ⟨⟨a, ha, hU⟩, hs⟩

theorem mem_possibleSets_of_mem_successors (h : U ∈ m.successors T) : U ∈ m.possibleSets := by
  obtain ⟨a, -, rfl, hs⟩ := mem_successors_iff.mp h
  exact mem_possibleSets_iff.mpr ⟨hs, fun s hs => Or.inr (mem_allTargets_of_mem_step hs)⟩

theorem closure_start_mem_possibleSets (m : Automaton) : m.closure [m.start] ∈ m.possibleSets := by
  refine mem_possibleSets_iff.mpr ⟨⟨m.start, mem_closure_of_mem (by simp)⟩, fun s hs => ?_⟩
  obtain ⟨r, hr, hrs⟩ := mem_closure_iff.mp hs
  cases hrs with
  | refl => exact Or.inl (List.mem_singleton.mp hr)
  | step _ hs => exact Or.inr (mem_allTargets (a := epsilon) hs)

/-- No set is pending when the construction ends. -/
theorem explores_subsets (m : Automaton) : Explores setName m.successors [m.closure [m.start]]
    [m.closure [m.start]] m.subsets :=
  explores_explore m.possibleSets (fun _ _ _ hU => mem_possibleSets_of_mem_successors hU)
    (by simp) (by simpa using m.closure_start_mem_possibleSets) (fun _ h => h)
    (by have := m.length_possibleSets_le; simp only [List.length_singleton]; omega)

theorem nodup_states (m : Automaton) : m.determinize.states.Nodup :=
  m.explores_subsets.nodup (by simp)

theorem mem_subsets_iff_reaches (hm : m.PlainNames) :
    T ∈ m.subsets ↔ Reaches m.successors (m.closure [m.start]) T := by
  rw [m.explores_subsets.mem_iff m.possibleSets
    (fun _ hT _ hU h => setName_injective hm hT hU h)
    (fun _ _ _ hU => mem_possibleSets_of_mem_successors hU)
    (by simpa using m.closure_start_mem_possibleSets)]
  simp

theorem mem_possibleSets_of_mem_subsets (h : T ∈ m.subsets) : T ∈ m.possibleSets := by
  obtain ⟨S, hS, hr⟩ := m.explores_subsets.reaches (fun _ h => h) h
  cases hr with
  | refl => exact List.mem_singleton.mp hS ▸ m.closure_start_mem_possibleSets
  | step _ hT => exact mem_possibleSets_of_mem_successors hT

theorem stepAll_append (T : NameSet) (v w : List Symbol) :
    m.stepAll T (v ++ w) = m.stepAll (m.stepAll T v) w :=
  List.foldl_append

theorem not_mem_step (h : ∀ s, s ∉ T) (a : Symbol) (s : State) : s ∉ m.step T a := fun hs =>
  have ⟨r, hr, _⟩ := mem_step_iff.mp hs
  h r hr

theorem not_mem_stepAll (h : ∀ s, s ∉ T) (w : List Symbol) (s : State) : s ∉ m.stepAll T w := by
  induction w generalizing T with
  | nil => exact h s
  | cons a w ih =>
    rw [stepAll_cons]
    exact ih (not_mem_step h a)

/-- What is reached from a set are the sets to which words lead, without the empty one. -/
theorem reaches_iff_stepAll (hT : ∃ s, s ∈ T) : Reaches m.successors T U ↔
    (∃ s, s ∈ U) ∧ ∃ w, (∀ a ∈ w, a ∈ m.alphabet) ∧ m.stepAll T w = U := by
  constructor
  · intro h
    induction h with
    | refl => exact ⟨hT, [], by simp, rfl⟩
    | step _ hU ih =>
      obtain ⟨-, w, hw, rfl⟩ := ih
      obtain ⟨a, ha, rfl, hs⟩ := mem_successors_iff.mp hU
      refine ⟨hs, w ++ [a], ?_, stepAll_append T w [a]⟩
      simpa [or_imp, forall_and] using ⟨hw, ha⟩
  · intro h
    obtain ⟨hs, w, hw, rfl⟩ := h
    -- by the last symbol: an empty set on the way would have left the last one empty
    induction w using List.reverseRecOn with
    | nil => exact .refl
    | append_singleton w a ih =>
      rw [stepAll_append] at hs ⊢
      have hs' : ∃ s, s ∈ m.stepAll T w := by
        by_contra hn
        obtain ⟨s, hs⟩ := hs
        exact not_mem_stepAll (not_exists.mp hn) [a] s hs
      exact (ih (fun b hb => hw b (List.mem_append_left _ hb)) hs').step
        (mem_successors_iff.mpr ⟨a, hw a (by simp), rfl, hs⟩)

/-- The sets are those to which words lead, without the empty one. -/
theorem mem_subsets_iff (hm : m.PlainNames) : T ∈ m.subsets ↔ (∃ s, s ∈ T) ∧
    ∃ w, (∀ a ∈ w, a ∈ m.alphabet) ∧ m.stepAll (m.closure [m.start]) w = T :=
  (mem_subsets_iff_reaches hm).trans (reaches_iff_stepAll ⟨m.start, mem_closure_of_mem (by simp)⟩)

/-! ## The deterministic automaton -/

/-- The transitions of the deterministic automaton. -/
def subsetMoves (m : Automaton) : List ((State × Symbol) × NameSet) :=
  m.subsets.flatMap fun T => (m.alphabet.map fun a => (a, m.step T a)).filterMap fun (a, U) =>
    if U.isEmpty then none else some ((setName T, a), .singleton (setName U))

theorem states_determinize (m : Automaton) : m.determinize.states = m.subsets.map setName := rfl

theorem accept_determinize (m : Automaton) :
    m.determinize.accept = .ofList ((m.subsets.filter (·.meets m.accept)).map setName) := rfl

theorem transitions_determinize (m : Automaton) :
    m.determinize.transitions = .ofList m.subsetMoves := rfl

theorem mem_subsetMoves_iff {e : (State × Symbol) × NameSet} : e ∈ m.subsetMoves ↔
    ∃ T ∈ m.subsets, ∃ a ∈ m.alphabet, (∃ s, s ∈ m.step T a) ∧
      e = ((setName T, a), .singleton (setName (m.step T a))) := by
  simp only [subsetMoves, List.mem_flatMap, List.mem_filterMap, List.mem_map]
  constructor
  · intro h
    obtain ⟨T, hT, ⟨a, U⟩, ⟨b, ha, he⟩, h⟩ := h
    cases he
    by_cases hU : (m.step T a).isEmpty
    · simp [hU] at h
    · rw [if_neg hU] at h
      have hs := NameSet.not_isEmpty_iff.mp hU
      exact ⟨T, hT, a, ha, hs, (Option.some.inj h).symm⟩
  · intro h
    obtain ⟨T, hT, a, ha, hs, rfl⟩ := h
    refine ⟨T, hT, (a, m.step T a), ⟨a, ha, rfl⟩, ?_⟩
    exact if_neg (NameSet.not_isEmpty_iff.mpr hs)

theorem isDeterministic_determinize (hε : epsilon ∉ m.alphabet) :
    m.determinize.isDeterministic = true := by
  refine List.all_eq_true.mpr fun e he => ?_
  have he : e ∈ m.subsetMoves := by
    refine OrderedMap.mem_of_get?_ofList (k := e.1) (v := e.2) ?_
    rw [← transitions_determinize]
    exact OrderedMap.mem_entries_iff.mp he
  obtain ⟨T, -, a, ha, -, rfl⟩ := mem_subsetMoves_iff.mp he
  simp [ne_of_mem_of_not_mem ha hε, NameSet.size, NameSet.toList_singleton]

/-- The sets of a construction have different names, whatever the names of the states. -/
theorem eq_of_setName_eq (hT : T ∈ m.subsets) (hU : U ∈ m.subsets) (h : setName T = setName U) :
    T = U :=
  List.inj_on_of_nodup_map m.nodup_states hT hU h

theorem get?_determinize_iff {k : State × Symbol} {V : NameSet} :
    m.determinize.transitions.get? k = some V ↔ (k, V) ∈ m.subsetMoves := by
  rw [transitions_determinize]
  refine OrderedMap.get?_ofList_iff fun k V W hV hW => ?_
  obtain ⟨S, hS, b, -, -, he⟩ := mem_subsetMoves_iff.mp hV
  obtain ⟨S', hS', b', -, -, he'⟩ := mem_subsetMoves_iff.mp hW
  obtain ⟨rfl, rfl⟩ := Prod.mk.inj he
  obtain ⟨hk, rfl⟩ := Prod.mk.inj he'
  obtain ⟨hname, rfl⟩ := Prod.mk.inj hk
  rw [eq_of_setName_eq hS hS' hname]

theorem get?_determinize (hT : T ∈ m.subsets) {V : NameSet} :
    m.determinize.transitions.get? (setName T, a) = some V ↔
      a ∈ m.alphabet ∧ (∃ s, s ∈ m.step T a) ∧ V = .singleton (setName (m.step T a)) := by
  rw [get?_determinize_iff, mem_subsetMoves_iff]
  constructor
  · intro h
    obtain ⟨S, hS, b, hb, hs, he⟩ := h
    obtain ⟨⟨hname, rfl⟩, rfl⟩ := by simpa using he
    obtain rfl := eq_of_setName_eq hT hS hname
    exact ⟨hb, hs, rfl⟩
  · intro h
    obtain ⟨ha, hs, rfl⟩ := h
    exact ⟨T, hT, a, ha, hs, rfl⟩

/-- A transition leads from the name of a set to the name of the next one. -/
theorem targets_determinize (hT : T ∈ m.subsets) (ha : a ∈ m.alphabet) :
    m.determinize.targets (setName T) a =
      if (m.step T a).isEmpty then ∅ else .singleton (setName (m.step T a)) := by
  rw [targets, OrderedMap.getD]
  by_cases hU : (m.step T a).isEmpty
  · have hnone : m.determinize.transitions.get? (setName T, a) = none := by
      refine Option.eq_none_iff_forall_ne_some.mpr fun V hV => ?_
      obtain ⟨-, ⟨s, hs⟩, -⟩ := (get?_determinize hT).mp hV
      exact NameSet.isEmpty_iff.mp hU s hs
    rw [hnone, if_pos hU]; rfl
  · have hs := NameSet.not_isEmpty_iff.mp hU
    rw [(get?_determinize hT).mpr ⟨ha, hs, rfl⟩, if_neg hU]; rfl

theorem target?_determinize (hT : T ∈ m.subsets) (ha : a ∈ m.alphabet) :
    m.determinize.target? (setName T) a =
      if (m.step T a).isEmpty then none else some (setName (m.step T a)) := by
  rw [target?, targets_determinize hT ha]
  split <;> rfl

theorem step_mem_subsets (hm : m.PlainNames) (hT : T ∈ m.subsets) (ha : a ∈ m.alphabet)
    (hs : ∃ s, s ∈ m.step T a) : m.step T a ∈ m.subsets :=
  (mem_subsets_iff_reaches hm).mpr
    (((mem_subsets_iff_reaches hm).mp hT).step (mem_successors_iff.mpr ⟨a, ha, rfl, hs⟩))

/-- The run goes through the names of the sets to which the word leads. -/
theorem run?_determinize (hm : m.PlainNames) (hT : T ∈ m.subsets) (hw : ∀ a ∈ w, a ∈ m.alphabet) :
    m.determinize.run? (setName T) w =
      if (m.stepAll T w).isEmpty then none else some (setName (m.stepAll T w)) := by
  induction w generalizing T with
  | nil =>
    have hs := (mem_subsets_iff hm).mp hT
    exact (if_neg (NameSet.not_isEmpty_iff.mpr hs.1)).symm
  | cons a w ih =>
    obtain ⟨ha, hw⟩ := List.forall_mem_cons.mp hw
    rw [run?, target?_determinize hT ha, stepAll_cons]
    by_cases hU : (m.step T a).isEmpty
    · rw [if_pos hU, if_pos (NameSet.isEmpty_iff.mpr (not_mem_stepAll (NameSet.isEmpty_iff.mp hU) w))]
      rfl
    · rw [if_neg hU]
      exact ih (step_mem_subsets hm hT ha (NameSet.not_isEmpty_iff.mp hU)) hw

theorem setName_mem_accept_iff (hT : T ∈ m.subsets) :
    setName T ∈ m.determinize.accept ↔ ∃ s, s ∈ T ∧ s ∈ m.accept := by
  rw [accept_determinize, NameSet.mem_ofList, List.mem_map, ← NameSet.meets_iff]
  constructor
  · intro h
    obtain ⟨S, hS, hname⟩ := h
    obtain ⟨hS, hmeets⟩ := List.mem_filter.mp hS
    exact eq_of_setName_eq hS hT hname ▸ hmeets
  · exact fun h => ⟨T, List.mem_filter.mpr ⟨hT, h⟩, rfl⟩

theorem closure_start_mem_subsets (m : Automaton) : m.closure [m.start] ∈ m.subsets :=
  m.explores_subsets.found_subset (by simp)

theorem start_determinize (m : Automaton) :
    m.determinize.start = setName (m.closure [m.start]) := rfl

theorem closed_of_mem_subsets (hm : m.PlainNames) (hT : T ∈ m.subsets) : m.Closed T := by
  obtain ⟨-, w, -, rfl⟩ := (mem_subsets_iff hm).mp hT
  induction w using List.reverseRecOn with
  | nil => exact closed_closure _
  | append_singleton w a => rw [stepAll_append]; exact closed_closure _

theorem stepAll_mem_subsets (hm : m.PlainNames) (hT : T ∈ m.subsets) (hw : ∀ a ∈ w, a ∈ m.alphabet)
    (hs : ∃ s, s ∈ m.stepAll T w) : m.stepAll T w ∈ m.subsets := by
  obtain ⟨-, v, hv, rfl⟩ := (mem_subsets_iff hm).mp hT
  exact (mem_subsets_iff hm).mpr
    ⟨hs, v ++ w, List.forall_mem_append.mpr ⟨hv, hw⟩, stepAll_append _ v w⟩

/-- The run from a set ends with acceptance where a path from a member does. -/
theorem run?_determinize_accepts_iff (hm : m.PlainNames) (hε : epsilon ∉ m.alphabet)
    (hT : T ∈ m.subsets) (hw : ∀ a ∈ w, a ∈ m.alphabet) :
    (∃ u ∈ m.determinize.accept, m.determinize.run? (setName T) w = some u) ↔
      ∃ s ∈ T, ∃ t ∈ m.accept, m.Path s w t := by
  have hend : ∀ t, t ∈ m.stepAll T w ↔ ∃ s ∈ T, m.Path s w t := fun t =>
    mem_stepAll_iff (closed_of_mem_subsets hm hT) fun h => hε (hw _ h)
  rw [run?_determinize hm hT hw]
  constructor
  · intro h
    obtain ⟨u, hu, hrun⟩ := h
    split at hrun
    · cases hrun
    · next hne =>
      obtain rfl := Option.some.inj hrun
      have hU := stepAll_mem_subsets hm hT hw (NameSet.not_isEmpty_iff.mp hne)
      obtain ⟨t, ht, hacc⟩ := (setName_mem_accept_iff hU).mp hu
      obtain ⟨s, hs, h⟩ := (hend t).mp ht
      exact ⟨s, hs, t, hacc, h⟩
  · intro h
    obtain ⟨s, hs, t, hacc, h⟩ := h
    have ht := (hend t).mpr ⟨s, hs, h⟩
    have hU := stepAll_mem_subsets hm hT hw ⟨t, ht⟩
    exact ⟨_, (setName_mem_accept_iff hU).mpr ⟨t, ht, hacc⟩,
      if_neg (NameSet.not_isEmpty_iff.mpr ⟨t, ht⟩)⟩

/-- The deterministic automaton accepts the words of the given one. -/
theorem runAccepts_determinize_iff (hm : m.PlainNames) (hε : epsilon ∉ m.alphabet)
    (hw : ∀ a ∈ w, a ∈ m.alphabet) : m.determinize.RunAccepts w ↔ m.Accepts w := by
  rw [RunAccepts, start_determinize,
    run?_determinize_accepts_iff hm hε m.closure_start_mem_subsets hw]
  constructor
  · intro h
    obtain ⟨s, hs, t, hacc, h⟩ := h
    exact ⟨t, hacc, h.of_mem_closure hs⟩
  · intro h
    obtain ⟨t, hacc, h⟩ := h
    exact ⟨m.start, mem_closure_of_mem (by simp), t, hacc, h⟩

/-- Each state of the deterministic automaton is reached by a word. -/
theorem exists_run?_determinize (hm : m.PlainNames) (hs : s ∈ m.determinize.states) :
    ∃ w, (∀ a ∈ w, a ∈ m.alphabet) ∧ m.determinize.run? m.determinize.start w = some s := by
  obtain ⟨T, hT, rfl⟩ := List.mem_map.mp hs
  obtain ⟨hne, w, hw, rfl⟩ := (mem_subsets_iff hm).mp hT
  refine ⟨w, hw, ?_⟩
  rw [start_determinize, run?_determinize hm m.closure_start_mem_subsets hw, if_neg]
  · rfl
  · exact NameSet.not_isEmpty_iff.mpr hne

/-- For plain names and an alphabet without `ε`, the construction comes to an end, with a deterministic
automaton whose states are distinct and all reached from its start, and which accepts the same words. -/
theorem determinize_equivalent (hm : m.PlainNames) (hε : epsilon ∉ m.alphabet) :
    (∀ S, ∃ found, m.closure S = .ofList found ∧
      Explores id m.silentTargets (newcomers id [] S) (newcomers id [] S) found) ∧
    Explores setName m.successors [m.closure [m.start]] [m.closure [m.start]] m.subsets ∧
    m.determinize.isDeterministic = true ∧ m.determinize.states.Nodup ∧
    (∀ s ∈ m.determinize.states, ∃ w, (∀ a ∈ w, a ∈ m.alphabet) ∧
      m.determinize.run? m.determinize.start w = some s) ∧
    ∀ w, (∀ a ∈ w, a ∈ m.alphabet) → (m.determinize.RunAccepts w ↔ m.Accepts w) :=
  ⟨m.explores_closure, m.explores_subsets, isDeterministic_determinize hε, m.nodup_states,
    fun _ hs => exists_run?_determinize hm hs, fun _ hw => runAccepts_determinize_iff hm hε hw⟩

/-- An automaton with an `ε`-move and with two targets of one transition. -/
def hops : Automaton where
  states := ["p", "q", "r"]
  alphabet := ["a", "b"]
  start := "p"
  accept := .ofList ["r"]
  transitions := .ofList [(("p", epsilon), .ofList ["q"]), (("q", "a"), .ofList ["p", "r"]),
    (("r", "b"), .ofList ["r"])]

theorem hops_determinize_equivalent :
    hops.PlainNames ∧ epsilon ∉ hops.alphabet ∧
    (∀ S, ∃ found, hops.closure S = .ofList found ∧
      Explores id hops.silentTargets (newcomers id [] S) (newcomers id [] S) found) ∧
    Explores setName hops.successors [hops.closure [hops.start]] [hops.closure [hops.start]]
      hops.subsets ∧
    hops.determinize.isDeterministic = true ∧ hops.determinize.states.Nodup ∧
    (∀ s ∈ hops.determinize.states, ∃ w, (∀ a ∈ w, a ∈ hops.alphabet) ∧
      hops.determinize.run? hops.determinize.start w = some s) ∧
    ∀ w, (∀ a ∈ w, a ∈ hops.alphabet) → (hops.determinize.RunAccepts w ↔ hops.Accepts w) := by
  have hm : hops.PlainNames := by decide +kernel
  have hε : epsilon ∉ hops.alphabet := by decide
  exact ⟨hm, hε, determinize_equivalent hm hε⟩

end FormalLanguages.Automaton
