import FormalLanguages.Proofs.Automaton.Subset
import FormalLanguages.Proofs.Automaton.Trim
/-!
# The subset construction where there is no choice

The sets of the construction are then single states, and a single state names its set. So the construction finds
the states that can be reached, and gives back what is left of the automaton without the others; it looks for them
symbol by symbol, so their order may be another one. On an automaton that it has made itself it meets the
same names in the same order.

Names need not be plain. If sets have the same name, only the first of them is taken, and its name is the name of
one state of the result.

Results:
* `step_singleton`: a single state leads to its targets.
* `WellFormed.mem_subsets_iff`: the sets are the states that can be reached.
* `WellFormed.reordered_determinize`: the construction gives the part that can be reached.
* `subsets_determinize`: the construction made again goes through the names of the sets.
* `determinize_where_deterministic`: both for all automata.
-/
namespace FormalLanguages.Automaton

attribute [ext] Automaton

/-- The automata are the same but for the order of states and transitions. -/
structure Reordered (m n : Automaton) : Prop where
  states : m.states.Perm n.states
  alphabet : m.alphabet = n.alphabet
  start : m.start = n.start
  accept : m.accept = n.accept
  transitions : ∀ k, m.transitions.get? k = n.transitions.get? k

variable {m : Automaton} {s t : State} {a : Symbol} {T U : NameSet}

/-! ## Single states -/

theorem setName_singleton (s : State) : setName (.singleton s) = s := by
  simp [setName, subsetName, NameSet.toList_singleton]

theorem closure_singleton (hdet : m.isDeterministic = true) (s : State) :
    m.closure [s] = .singleton s := by
  refine NameSet.ext fun t => ?_
  rw [mem_closure_iff, NameSet.mem_singleton]
  constructor
  · rintro ⟨r, hr, h⟩
    obtain rfl := List.mem_singleton.mp hr
    cases h with
    | refl => rfl
    | step _ ht => exact absurd ht (not_mem_targets_epsilon hdet)
  · rintro rfl
    exact ⟨t, List.mem_singleton_self t, .refl⟩

/-- A single state leads to its targets. -/
theorem step_singleton (hdet : m.isDeterministic = true) (s : State) (a : Symbol) :
    m.step (.singleton s) a = m.targets s a := by
  refine NameSet.ext fun u => ?_
  rw [mem_step_iff]
  constructor
  · rintro ⟨r, hr, t, ht, h⟩
    obtain rfl := NameSet.mem_singleton.mp hr
    cases h with
    | refl => exact ht
    | step _ hu => exact absurd hu (not_mem_targets_epsilon hdet)
  · exact fun hu => ⟨s, NameSet.mem_singleton.mpr rfl, u, hu, .refl⟩

/-! ## The part that can be reached -/

namespace WellFormed

theorem targets_eq_singleton (hm : m.WellFormed) (h : t ∈ m.targets s a) :
    m.targets s a = .singleton t := by
  have htarget := (target?_eq_some_iff hm.isDeterministic).mpr h
  rw [targets, OrderedMap.getD, hm.get?_eq_some_iff.mpr ⟨t, htarget, rfl⟩, Option.getD_some]

/-- A single state leads to single states, those to which its transitions lead. -/
theorem mem_successors_singleton_iff (hm : m.WellFormed) :
    U ∈ m.successors (.singleton s) ↔ ∃ t ∈ m.nextStates s, .singleton t = U := by
  simp only [mem_successors_iff, step_singleton hm.isDeterministic, mem_nextStates_iff]
  constructor
  · rintro ⟨a, -, rfl, t, ht⟩
    exact ⟨t, ⟨a, ht⟩, (hm.targets_eq_singleton ht).symm⟩
  · rintro ⟨t, ⟨a, ht⟩, rfl⟩
    have ha := (hm.of_target? ((target?_eq_some_iff hm.isDeterministic).mpr ht)).2.1
    exact ⟨a, ha, hm.targets_eq_singleton ht, t, NameSet.mem_singleton.mpr rfl⟩

/-- The sets are the states that can be reached. -/
theorem mem_subsets_iff (hm : m.WellFormed) :
    T ∈ m.subsets ↔ ∃ s ∈ m.reachableStates, .singleton s = T := by
  have hstart := closure_singleton hm.isDeterministic m.start
  have hkey : ∀ T ∈ (m.start :: m.allTargets).map NameSet.singleton,
      ∀ U ∈ (m.start :: m.allTargets).map NameSet.singleton, setName T = setName U → T = U := by
    intro T hT U hU h
    obtain ⟨s, -, rfl⟩ := List.mem_map.mp hT
    obtain ⟨t, -, rfl⟩ := List.mem_map.mp hU
    rw [setName_singleton, setName_singleton] at h
    rw [h]
  rw [m.explores_subsets.mem_iff ((m.start :: m.allTargets).map NameSet.singleton) hkey]
  · simp only [List.mem_singleton, exists_eq_left, hstart, mem_reachableStates_iff]
    exact reaches_map_iff fun s U => hm.mem_successors_singleton_iff
  · intro T hT U hU
    obtain ⟨s, -, rfl⟩ := List.mem_map.mp hT
    obtain ⟨t, ht, rfl⟩ := hm.mem_successors_singleton_iff.mp hU
    obtain ⟨a, ht⟩ := mem_nextStates_iff.mp ht
    exact List.mem_map_of_mem (List.mem_cons_of_mem _ (mem_allTargets ht))
  · simp [hstart]

theorem mem_states_determinize_iff_reachable (hm : m.WellFormed) :
    s ∈ m.determinize.states ↔ s ∈ m.reachableStates := by
  simp only [states_determinize, List.mem_map, hm.mem_subsets_iff]
  constructor
  · rintro ⟨_, ⟨t, ht, rfl⟩, rfl⟩
    rwa [setName_singleton]
  · exact fun hs => ⟨_, ⟨s, hs, rfl⟩, setName_singleton s⟩

theorem mem_accept_determinize_iff (hm : m.WellFormed) :
    s ∈ m.determinize.accept ↔ s ∈ m.accept ∧ s ∈ m.reachableStates := by
  simp only [accept_determinize, NameSet.mem_ofList, List.mem_map, List.mem_filter, hm.mem_subsets_iff,
    NameSet.meets_iff]
  constructor
  · rintro ⟨_, ⟨⟨t, ht, rfl⟩, u, hu, hacc⟩, rfl⟩
    obtain rfl := NameSet.mem_singleton.mp hu
    rw [setName_singleton]
    exact ⟨hacc, ht⟩
  · rintro ⟨hacc, hs⟩
    exact ⟨_, ⟨⟨s, hs, rfl⟩, s, NameSet.mem_singleton.mpr rfl, hacc⟩, setName_singleton s⟩

theorem get?_determinize_iff_reachable (hm : m.WellFormed) :
    m.determinize.transitions.get? (s, a) = some T ↔
      m.transitions.get? (s, a) = some T ∧ s ∈ m.reachableStates := by
  simp only [get?_determinize_iff, mem_subsetMoves_iff, hm.mem_subsets_iff, hm.get?_eq_some_iff]
  constructor
  · rintro ⟨_, ⟨r, hr, rfl⟩, b, -, ⟨t, ht⟩, he⟩
    rw [step_singleton hm.isDeterministic] at ht he
    rw [hm.targets_eq_singleton ht, setName_singleton, setName_singleton] at he
    obtain ⟨⟨rfl, rfl⟩, rfl⟩ := by simpa using he
    exact ⟨⟨t, (target?_eq_some_iff hm.isDeterministic).mpr ht, rfl⟩, hr⟩
  · rintro ⟨⟨t, htarget, rfl⟩, hs⟩
    have ht := (target?_eq_some_iff hm.isDeterministic).mp htarget
    refine ⟨_, ⟨s, hs, rfl⟩, a, (hm.of_target? htarget).2.1, ?_⟩
    rw [step_singleton hm.isDeterministic, hm.targets_eq_singleton ht, setName_singleton,
      setName_singleton]
    exact ⟨⟨t, NameSet.mem_singleton.mpr rfl⟩, rfl⟩

/-- Of an automaton without choice the construction gives the part that can be reached. -/
theorem reordered_determinize (hm : m.WellFormed) : Reordered m.determinize m.trim where
  states := by
    refine (List.perm_ext_iff_of_nodup m.nodup_states hm.trim.nodup).mpr fun s => ?_
    rw [hm.mem_states_determinize_iff_reachable, hm.mem_states_trim_iff, hm.mem_reachableStates_iff_reached]
  alphabet := rfl
  start := by
    rw [start_determinize, closure_singleton hm.isDeterministic, setName_singleton]
    rfl
  accept := NameSet.ext fun s => by rw [hm.mem_accept_determinize_iff, mem_accept_trim_iff]
  transitions := fun ⟨s, a⟩ => Option.ext fun T => by
    rw [hm.get?_determinize_iff_reachable, Automaton.trim, OrderedMap.get?_filter, Option.filter_eq_some_iff,
      decide_eq_true_eq]

end WellFormed

/-! ## The construction made again -/

/-- The name of a set, as the only state of a set. -/
def named (T : NameSet) : NameSet := .singleton (setName T)

theorem setName_named (T : NameSet) : setName (named T) = setName T := setName_singleton _

/-- The name of a set leads to the names of the sets to which the set leads. -/
theorem step_determinize (hε : epsilon ∉ m.alphabet) (hT : T ∈ m.subsets) (ha : a ∈ m.alphabet) :
    m.determinize.step (named T) a = if (m.step T a).isEmpty then ∅ else named (m.step T a) := by
  rw [named, step_singleton (isDeterministic_determinize hε), targets_determinize hT ha]
  rfl

theorem isEmpty_step_determinize (hε : epsilon ∉ m.alphabet) (hT : T ∈ m.subsets) (ha : a ∈ m.alphabet) :
    (m.determinize.step (named T) a).isEmpty = (m.step T a).isEmpty := by
  rw [step_determinize hε hT ha]
  cases h : (m.step T a).isEmpty <;> rfl

theorem successors_determinize (hε : epsilon ∉ m.alphabet) (hT : T ∈ m.subsets) :
    m.determinize.successors (named T) = (m.successors T).map named := by
  change (m.alphabet.map _).filter _ = ((m.alphabet.map _).filter _).map named
  rw [List.filter_map, List.filter_map, List.map_map]
  have hfilter : m.alphabet.filter ((fun U => !U.isEmpty) ∘ m.determinize.step (named T)) =
      m.alphabet.filter ((fun U => !U.isEmpty) ∘ m.step T) := by
    refine List.filter_congr fun a ha => ?_
    rw [Function.comp_apply, Function.comp_apply, isEmpty_step_determinize hε hT ha]
  rw [hfilter]
  refine List.map_congr_left fun a ha => ?_
  obtain ⟨ha, hne⟩ := List.mem_filter.mp ha
  rw [step_determinize hε hT ha, if_neg (by simpa using hne)]
  rfl

/-- The construction made again goes through the names of the sets. -/
theorem subsets_determinize (hε : epsilon ∉ m.alphabet) :
    m.determinize.subsets = m.subsets.map named := by
  have h := m.explores_subsets.map (f := named) setName_named (fun _ h => h)
    fun T hT => successors_determinize hε hT
  have hstart : m.determinize.closure [m.determinize.start] = named (m.closure [m.start]) :=
    closure_singleton (isDeterministic_determinize hε) _
  have h' := m.determinize.explores_subsets
  rw [hstart] at h'
  exact h'.unique h

theorem subsetMoves_determinize (hε : epsilon ∉ m.alphabet) :
    m.determinize.subsetMoves = m.subsetMoves := by
  rw [subsetMoves, subsetMoves, subsets_determinize hε, List.flatMap_map]
  refine List.flatMap_congr fun T hT => ?_
  rw [List.filterMap_map, List.filterMap_map]
  refine List.filterMap_congr fun a ha => ?_
  simp only [Function.comp_apply, isEmpty_step_determinize hε hT ha, setName_named]
  split
  · rfl
  · next hne => rw [step_determinize hε hT ha, if_neg hne, setName_named]

theorem states_determinize_determinize (hε : epsilon ∉ m.alphabet) :
    m.determinize.determinize.states = m.determinize.states := by
  rw [states_determinize m.determinize, subsets_determinize hε, List.map_map, states_determinize m]
  exact List.map_congr_left fun T _ => setName_named T

theorem accept_determinize_determinize (hε : epsilon ∉ m.alphabet) :
    m.determinize.determinize.accept = m.determinize.accept := by
  have hmeets : ∀ T ∈ m.subsets, (named T).meets m.determinize.accept = T.meets m.accept := by
    intro T hT
    rw [Bool.eq_iff_iff, NameSet.meets_iff, NameSet.meets_iff, ← setName_mem_accept_iff hT]
    simp [named]
  rw [accept_determinize m.determinize, subsets_determinize hε, List.filter_map, List.map_map,
    List.filter_congr (q := (·.meets m.accept)) hmeets, accept_determinize m]
  exact congrArg NameSet.ofList (List.map_congr_left fun T _ => setName_named T)

/-- The construction changes nothing the second time, not even an order. -/
theorem determinize_determinize (hε : epsilon ∉ m.alphabet) :
    m.determinize.determinize = m.determinize := by
  have hstart : m.determinize.determinize.start = m.determinize.start := by
    rw [start_determinize, closure_singleton (isDeterministic_determinize hε), setName_singleton]
  have htransitions : m.determinize.determinize.transitions = m.determinize.transitions := by
    rw [transitions_determinize, transitions_determinize, subsetMoves_determinize hε]
  exact Automaton.ext (states_determinize_determinize hε) rfl hstart
    (accept_determinize_determinize hε) htransitions

/-- Of an automaton without choice the construction gives the part that can be reached, in some order; and made a
second time it changes nothing at all. -/
theorem determinize_where_deterministic :
    (∀ m : Automaton, m.WellFormed → Reordered m.determinize m.trim) ∧
    ∀ m : Automaton, epsilon ∉ m.alphabet → m.determinize.determinize = m.determinize :=
  ⟨fun _ hm => hm.reordered_determinize, fun _ hε => determinize_determinize hε⟩

/-- A partial automaton without choice, in which names have commas and one state is not reached. -/
def commas : Automaton where
  states := ["b,c", "z", "a", "a,b"]
  alphabet := ["x", "y"]
  start := "a"
  accept := .ofList ["a,b", "z"]
  transitions := .ofList [(("a", "y"), .singleton "a,b"), (("a", "x"), .singleton "b,c"),
    (("z", "x"), .singleton "a"), (("b,c", "y"), .singleton "a,b")]

/-- An automaton in which the set of `a` and `b` has the name of a state. -/
def ambiguous : Automaton where
  states := ["a", "b", "a,b"]
  alphabet := ["x", "y"]
  start := "a"
  accept := .ofList ["a,b"]
  transitions := .ofList [(("a", "x"), .ofList ["a", "b"]), (("a", epsilon), .singleton "b"),
    (("b", "y"), .singleton "a,b"), (("a,b", "x"), .singleton "b")]

theorem commas_determinize_where_deterministic :
    commas.WellFormed ∧ epsilon ∉ ambiguous.alphabet ∧
    Reordered commas.determinize commas.trim ∧ commas.determinize.states ≠ commas.trim.states ∧
    ambiguous.determinize.determinize = ambiguous.determinize := by
  have hm : commas.WellFormed := by decide +kernel
  have hε : epsilon ∉ ambiguous.alphabet := by decide
  exact ⟨hm, hε, determinize_where_deterministic.1 commas hm, by decide +kernel,
    determinize_where_deterministic.2 ambiguous hε⟩

end FormalLanguages.Automaton
