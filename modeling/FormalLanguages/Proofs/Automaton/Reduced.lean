import FormalLanguages.Proofs.Automaton.Completion
import FormalLanguages.Proofs.Automaton.Minimal
import Mathlib.Data.Set.Function
/-!
# Reduced automata

An automaton is reduced if words lead to all of its states and any two of them are told apart by a word.
Minimizing gives a reduced automaton. What a state of a reduced automaton is for is settled by the words
that lead to it, so that two reduced automata which do the same are one automaton with different names:
each state of the one corresponds to the state of the other to which the same words lead.

Results:
* `reduced_minimize`: minimizing gives a reduced automaton that does the same.
* `Reduced.exists_isomorphism`: reduced automata that do the same are isomorphic.
* `length_states_le`: no complete automaton with the same words has fewer states than one whose states
  are told apart by the words that they accept.
* `minimize_complete_canonical`: what is minimized from complete automata with the same words is
  isomorphic, and no complete automaton with these words has fewer states.
-/
namespace FormalLanguages.Automaton

/-- Words lead to all states, and different states are told apart by a word. -/
structure Reduced (m : Automaton) : Prop where
  wellFormed : m.WellFormed
  reached : ∀ s ∈ m.states, m.Reached s
  eq_of_indistinct : ∀ s ∈ m.states, ∀ t ∈ m.states, m.Indistinct s t → s = t

/-- The states of `n` are those of `m` under other names. -/
structure Isomorphism (m n : Automaton) (f : State → State) : Prop where
  alphabet : n.alphabet = m.alphabet
  bijOn : Set.BijOn f {s | s ∈ m.states} {t | t ∈ n.states}
  start : f m.start = n.start
  accept : ∀ s ∈ m.states, f s ∈ n.accept ↔ s ∈ m.accept
  targets : ∀ s ∈ m.states, ∀ a u, u ∈ n.targets (f s) a ↔ ∃ t ∈ m.targets s a, f t = u

/-- Some word leads to both states. -/
def Corresponds (m n : Automaton) (s t : State) : Prop :=
  ∃ w, m.Spells w ∧ m.run? m.start w = some s ∧ n.run? n.start w = some t

/-- Every word ends the same way in both automata. -/
def SameOutcomes (m n : Automaton) : Prop :=
  ∀ w, m.Spells w → m.outcome m.start w = n.outcome n.start w

/-- The same words lead from the two states to acceptance. -/
def SameWords (m n : Automaton) (s t : State) : Prop :=
  ∀ w, m.Spells w → (m.outcome s w = some true ↔ n.outcome t w = some true)

variable {m n : Automaton} {s s' t t' : State} {a : Symbol} {v w : List Symbol}

theorem outcome_append (s : State) (v w : List Symbol) :
    m.outcome s (v ++ w) = (m.run? s v).bind fun t => m.outcome t w := by
  rw [outcome, run?_append, Option.map_bind]
  rfl

theorem outcome_nil (s : State) : m.outcome s [] = some (decide (s ∈ m.accept)) := rfl

theorem spells_congr (h : n.alphabet = m.alphabet) : n.Spells w ↔ m.Spells w := by
  rw [Spells, Spells, h]

/-! ## Corresponding states -/

theorem Corresponds.outcome (hsame : SameOutcomes m n) (h : Corresponds m n s t) (hw : m.Spells w) :
    m.outcome s w = n.outcome t w := by
  obtain ⟨v, hv, hs, ht⟩ := h
  have h := hsame (v ++ w) (spells_append_iff.mpr ⟨hv, hw⟩)
  rwa [outcome_append, outcome_append, hs, ht] at h

theorem corresponds_start (m n : Automaton) : Corresponds m n m.start n.start :=
  ⟨[], fun _ h => (nomatch h), rfl, rfl⟩

/-- A word that leads somewhere in one automaton does so in the other. -/
theorem exists_corresponds (hsame : SameOutcomes m n) (hs : m.Reached s) :
    ∃ t, Corresponds m n s t := by
  obtain ⟨w, hw, hs⟩ := hs
  have h := congrArg Option.isSome (hsame w hw)
  rw [isSome_outcome, isSome_outcome, hs] at h
  obtain ⟨t, ht⟩ := Option.isSome_iff_exists.mp h.symm
  exact ⟨t, w, hw, hs, ht⟩

theorem Corresponds.symm (halphabet : n.alphabet = m.alphabet) (h : Corresponds m n s t) :
    Corresponds n m t s :=
  have ⟨w, hw, hs, ht⟩ := h
  ⟨w, (spells_congr halphabet).mpr hw, ht, hs⟩

theorem SameOutcomes.symm (halphabet : n.alphabet = m.alphabet) (h : SameOutcomes m n) :
    SameOutcomes n m := fun w hw => (h w ((spells_congr halphabet).mp hw)).symm

theorem Corresponds.mem_states (hn : n.WellFormed) (h : Corresponds m n s t) : t ∈ n.states := by
  obtain ⟨w, -, -, ht⟩ := h
  exact (hn.run?_mem hn.start_mem ht).1

/-- A state corresponds to one state only. -/
theorem Reduced.corresponds_unique (hn : n.Reduced) (halphabet : n.alphabet = m.alphabet)
    (hsame : SameOutcomes m n) (h : Corresponds m n s t) (h' : Corresponds m n s t') : t = t' := by
  refine hn.eq_of_indistinct t (h.mem_states hn.wellFormed) t' (h'.mem_states hn.wellFormed) ?_
  intro w hw
  have hw := (spells_congr halphabet).mp hw
  rw [← h.outcome hsame hw, ← h'.outcome hsame hw]

/-- Transitions lead from corresponding states to corresponding states. -/
theorem Corresponds.exists_target? (hm : m.WellFormed) (hsame : SameOutcomes m n)
    (h : Corresponds m n s t) (hs' : m.target? s a = some s') :
    ∃ t', n.target? t a = some t' ∧ Corresponds m n s' t' := by
  have ha : m.Spells [a] := by simpa [Spells] using (hm.of_target? hs').2.1
  have hdefined := congrArg Option.isSome (h.outcome hsame ha)
  rw [isSome_outcome, isSome_outcome, run?_singleton, run?_singleton, hs'] at hdefined
  obtain ⟨t', ht'⟩ := Option.isSome_iff_exists.mp hdefined.symm
  obtain ⟨w, hw, hs, ht⟩ := h
  refine ⟨t', ht', w ++ [a], spells_append_iff.mpr ⟨hw, ha⟩, ?_, ?_⟩
  · rw [run?_append, hs, Option.bind_some, run?_singleton, hs']
  · rw [run?_append, ht, Option.bind_some, run?_singleton, ht']

/-- Reduced automata that do the same are isomorphic. -/
theorem Reduced.exists_isomorphism (hm : m.Reduced) (hn : n.Reduced)
    (halphabet : n.alphabet = m.alphabet) (hsame : SameOutcomes m n) : ∃ f, Isomorphism m n f := by
  classical
  have htotal : ∀ s, ∃ t, s ∈ m.states → Corresponds m n s t := fun s => by
    by_cases hs : s ∈ m.states
    · obtain ⟨t, ht⟩ := exists_corresponds hsame (hm.reached s hs)
      exact ⟨t, fun _ => ht⟩
    · exact ⟨s, fun h => absurd h hs⟩
  choose f hf using htotal
  have hsame' := hsame.symm halphabet
  have hunique : ∀ {s t}, s ∈ m.states → Corresponds m n s t → f s = t := fun hs h =>
    hn.corresponds_unique halphabet hsame (hf _ hs) h
  refine ⟨f, halphabet, ⟨fun s hs => ?_, fun s hs s' hs' he => ?_, fun t ht => ?_⟩, ?_,
    fun s hs => ?_, fun s hs a u => ?_⟩
  · exact (hf s hs).mem_states hn.wellFormed
  · have h := (hf s hs).symm halphabet
    rw [he] at h
    exact hm.corresponds_unique halphabet.symm hsame' h ((hf s' hs').symm halphabet)
  · obtain ⟨s, h⟩ := exists_corresponds hsame' (hn.reached t ht)
    have h := h.symm halphabet.symm
    have hs : s ∈ m.states := (h.symm halphabet).mem_states hm.wellFormed
    exact ⟨s, hs, hunique hs h⟩
  · exact hunique hm.wellFormed.start_mem (corresponds_start m n)
  · have h := (hf s hs).outcome hsame (w := []) fun _ h => nomatch h
    rw [outcome_nil, outcome_nil, Option.some_inj, decide_eq_decide] at h
    exact h.symm
  · have hdm := hm.wellFormed.isDeterministic
    have hdn := hn.wellFormed.isDeterministic
    simp only [← target?_eq_some_iff hdm, ← target?_eq_some_iff hdn]
    constructor
    · intro hu
      obtain ⟨t, ht, h⟩ :=
        ((hf s hs).symm halphabet).exists_target? hn.wellFormed hsame' hu
      exact ⟨t, ht, hunique (hm.wellFormed.of_target? ht).2.2 (h.symm halphabet.symm)⟩
    · rintro ⟨t, ht, rfl⟩
      obtain ⟨u, hu, h⟩ := (hf s hs).exists_target? hm.wellFormed hsame ht
      rwa [hunique (hm.wellFormed.of_target? ht).2.2 h]

/-! ## Complete automata -/

/-- In a complete automaton every word leads somewhere. -/
theorem WellFormed.exists_run? (hm : m.WellFormed) (hc : m.isComplete = true) (hs : s ∈ m.states)
    (hw : m.Spells w) : ∃ t, m.run? s w = some t :=
  Option.isSome_iff_exists.mp (hm.run?_isSome_of_missing (isComplete_iff_missing.mp hc) hs hw)

theorem WellFormed.accepts_iff_outcome (hm : m.WellFormed) :
    m.Accepts w ↔ m.outcome m.start w = some true :=
  (accepts_iff_runAccepts hm.isDeterministic).trans runAccepts_iff_outcome

/-- Complete automata with the same words do the same. -/
theorem sameOutcomes_of_isComplete (hm : m.WellFormed) (hn : n.WellFormed)
    (hmc : m.isComplete = true) (hnc : n.isComplete = true) (halphabet : n.alphabet = m.alphabet)
    (hsame : ∀ w, m.Spells w → (m.Accepts w ↔ n.Accepts w)) : SameOutcomes m n := by
  intro w hw
  obtain ⟨s, hs⟩ := hm.exists_run? hmc hm.start_mem hw
  obtain ⟨t, ht⟩ := hn.exists_run? hnc hn.start_mem ((spells_congr halphabet).mpr hw)
  have h := hsame w hw
  rw [hm.accepts_iff_outcome, hn.accepts_iff_outcome] at h
  rw [outcome, outcome, hs, ht] at h ⊢
  simpa using h

/-! ## Counting states -/

/-- What the same word leads to accepts the same words, if the automata do. -/
theorem sameWords_of_run? (hm : m.WellFormed) (hn : n.WellFormed)
    (hsame : ∀ w, m.Spells w → (m.Accepts w ↔ n.Accepts w)) (hv : m.Spells v)
    (hs : m.run? m.start v = some s) (ht : n.run? n.start v = some t) : SameWords m n s t := by
  intro w hw
  have h := hsame (v ++ w) (spells_append_iff.mpr ⟨hv, hw⟩)
  rwa [hm.accepts_iff_outcome, hn.accepts_iff_outcome, outcome_append, outcome_append, hs, ht] at h

/-- A list has at most as many members as another, if each member stands for one of the other and none
of these is stood for twice. -/
theorem length_le_of_relation {α β : Type} {xs : List α} {ys : List β} {r : α → β → Prop}
    (hxs : xs.Nodup) (htotal : ∀ x ∈ xs, ∃ y ∈ ys, r x y)
    (hinj : ∀ x ∈ xs, ∀ x' ∈ xs, ∀ y, r x y → r x' y → x = x') : xs.length ≤ ys.length := by
  choose f hf using htotal
  have hnodup : (xs.pmap f fun _ h => h).Nodup := hxs.pmap fun x hx x' hx' he =>
    hinj x hx x' hx' (f x hx) (hf x hx).2 (he ▸ (hf x' hx').2)
  rw [← List.length_pmap (f := f) (H := fun _ h => h)]
  refine hnodup.length_le_of_subset fun y hy => ?_
  obtain ⟨x, hx, rfl⟩ := List.mem_pmap.mp hy
  exact (hf x hx).1

/-- No complete automaton with the same words has fewer states than one whose states are reached and
told apart by the words that they accept. -/
theorem length_states_le (hm : m.WellFormed) (hreached : ∀ s ∈ m.states, m.Reached s)
    (hdiffer : ∀ s ∈ m.states, ∀ t ∈ m.states, SameWords m m s t → s = t) (hn : n.WellFormed)
    (hnc : n.isComplete = true) (halphabet : n.alphabet = m.alphabet)
    (hsame : ∀ w, m.Spells w → (m.Accepts w ↔ n.Accepts w)) :
    m.states.length ≤ n.states.length := by
  refine length_le_of_relation (r := SameWords m n) hm.nodup (fun s hs => ?_)
    fun s hs s' hs' t h h' => hdiffer s hs s' hs' fun w hw => (h w hw).trans (h' w hw).symm
  obtain ⟨v, hv, hrun⟩ := hreached s hs
  obtain ⟨t, ht⟩ := hn.exists_run? hnc hn.start_mem ((spells_congr halphabet).mpr hv)
  exact ⟨t, (hn.run?_mem hn.start_mem ht).1, sameWords_of_run? hm hn hsame hv hrun ht⟩

/-! ## What is minimized -/

namespace WellFormed

theorem outcome_quotient (hm : m.WellFormed) (hn : m.DistinctNames) (hs : s ∈ m.states) :
    m.quotient.outcome (m.mergedName s) w = m.outcome s w := by
  rw [outcome, outcome, hm.run?_quotient hn hs, Option.map_map]
  refine Option.map_congr fun t ht => ?_
  simp [hm.mergedName_mem_accept_iff hn (hm.run?_mem hs ht).1]

theorem exists_mergedName (hm : m.WellFormed) (ht : t ∈ m.quotient.states) :
    ∃ s ∈ m.states, m.mergedName s = t := by
  obtain ⟨b, hb, rfl⟩ := List.mem_map.mp ht
  obtain ⟨s, hs⟩ := List.exists_mem_of_ne_nil b (hm.isPartition.ne_nil b hb)
  exact ⟨s, hm.isPartition.mem_states hb hs, congrArg Block.name (hm.blockOf_eq hb hs)⟩

theorem reduced_quotient (hm : m.WellFormed) (hn : m.DistinctNames)
    (hreached : ∀ s ∈ m.states, m.Reached s) : m.quotient.Reduced where
  wellFormed := hm.quotient hn
  reached t ht := by
    obtain ⟨s, hs, rfl⟩ := hm.exists_mergedName ht
    obtain ⟨w, hw, hrun⟩ := hreached s hs
    refine ⟨w, hw, ?_⟩
    rw [show m.quotient.start = m.mergedName m.start from rfl, hm.run?_quotient hn hm.start_mem, hrun]
    rfl
  eq_of_indistinct t ht t' ht' h := by
    obtain ⟨s, hs, rfl⟩ := hm.exists_mergedName ht
    obtain ⟨s', hs', rfl⟩ := hm.exists_mergedName ht'
    refine (hm.mergedName_eq_iff hn hs hs').mpr (hm.sameBlock_of_indistinct hs hs' fun w hw => ?_)
    rw [← hm.outcome_quotient hn hs, ← hm.outcome_quotient hn hs']
    exact h w hw

theorem reached_trim (hm : m.WellFormed) : ∀ s ∈ m.trim.states, m.trim.Reached s := by
  intro s hs
  obtain ⟨w, hw, hrun⟩ := hm.mem_states_trim_iff.mp hs
  exact ⟨w, hw, (run?_trim m.start_mem_reachableStates w).trans hrun⟩

/-- Minimizing gives a reduced automaton that does the same. -/
theorem reduced_minimize (hm : m.WellFormed) (hn : m.trim.DistinctNames) :
    ∃ n, m.minimize = .ok n ∧ n.Reduced ∧ n.alphabet = m.alphabet ∧ SameOutcomes m n := by
  refine ⟨m.trim.quotient, hm.minimize_eq, hm.trim.reduced_quotient hn hm.reached_trim, rfl, ?_⟩
  intro w _
  change m.outcome m.start w = m.trim.quotient.outcome (m.trim.mergedName m.trim.start) w
  rw [hm.trim.outcome_quotient hn hm.trim.start_mem]
  exact (outcome_trim m.start_mem_reachableStates w).symm

theorem distinctNames_trim_of_simpleNames (hm : m.WellFormed) (hs : m.SimpleNames) :
    m.trim.DistinctNames :=
  hm.trim.distinctNames_of_simpleNames fun s hst => hs s (List.mem_filter.mp hst).1

end WellFormed

/-! ## The canonical form -/

/-- In a complete automaton every two states are told apart by the words that they accept, if by any. -/
theorem Reduced.eq_of_sameWords (hm : m.Reduced) (hc : m.isComplete = true) :
    ∀ s ∈ m.states, ∀ t ∈ m.states, SameWords m m s t → s = t := by
  intro s hs t ht h
  refine hm.eq_of_indistinct s hs t ht fun w hw => outcome_eq_outcome_iff.mpr ⟨?_, h w hw⟩
  obtain ⟨s', hs'⟩ := hm.wellFormed.exists_run? hc hs hw
  obtain ⟨t', ht'⟩ := hm.wellFormed.exists_run? hc ht hw
  simp [hs', ht']

/-- What does the same as a complete automaton is complete, if words lead to all of its states. -/
theorem SameOutcomes.isComplete (hsame : SameOutcomes m n) (hm : m.WellFormed)
    (hmc : m.isComplete = true) (halphabet : n.alphabet = m.alphabet)
    (hreached : ∀ t ∈ n.states, n.Reached t) : n.isComplete = true := by
  refine List.all_eq_true.mpr fun t ht => List.all_eq_true.mpr fun a ha => ?_
  obtain ⟨w, hw, hrun⟩ := hreached t ht
  have hwa : m.Spells (w ++ [a]) := spells_append_iff.mpr
    ⟨(spells_congr halphabet).mp hw, by simpa [Spells, ← halphabet] using ha⟩
  obtain ⟨s, hs⟩ := hm.exists_run? hmc hm.start_mem hwa
  have h := congrArg Option.isSome (hsame _ hwa)
  rw [isSome_outcome, isSome_outcome, hs, run?_append, hrun, Option.bind_some, run?_singleton] at h
  obtain ⟨t', ht'⟩ := Option.isSome_iff_exists.mp h.symm
  have hne : (n.targets t a).toList ≠ [] := List.ne_nil_of_mem (List.mem_of_mem_head? ht')
  simpa [NameSet.isEmpty] using hne

/-- What is minimized from complete automata that accept the same words is isomorphic, and has as few
states as there can be. -/
theorem minimize_complete_canonical (hm : m.WellFormed) (hn : n.WellFormed)
    (hmc : m.isComplete = true) (hnc : n.isComplete = true) (hms : m.SimpleNames)
    (hns : n.SimpleNames) (halphabet : n.alphabet = m.alphabet)
    (hsame : ∀ w, m.Spells w → (m.Accepts w ↔ n.Accepts w)) :
    ∃ m' n', m.minimize = .ok m' ∧ n.minimize = .ok n' ∧ (∃ f, Isomorphism m' n' f) ∧
      ∀ c : Automaton, c.WellFormed → c.isComplete = true → c.alphabet = m.alphabet →
        (∀ w, m.Spells w → (m.Accepts w ↔ c.Accepts w)) → m'.states.length ≤ c.states.length := by
  obtain ⟨m', hm', hmr, hma, hmo⟩ := hm.reduced_minimize (hm.distinctNames_trim_of_simpleNames hms)
  obtain ⟨n', hn', hnr, hna, hno⟩ := hn.reduced_minimize (hn.distinctNames_trim_of_simpleNames hns)
  refine ⟨m', n', hm', hn', ?_, fun c hc hcc hca hcs => ?_⟩
  · have hsame := sameOutcomes_of_isComplete hm hn hmc hnc halphabet hsame
    refine hmr.exists_isomorphism hnr (hna.trans (halphabet.trans hma.symm)) fun w hw => ?_
    have hw := (spells_congr hma).mp hw
    rw [← hmo w hw, hsame w hw, hno w ((spells_congr halphabet).mpr hw)]
  · have hcomplete := hmo.isComplete hm hmc hma hmr.reached
    refine length_states_le hmr.wellFormed hmr.reached (hmr.eq_of_sameWords hcomplete) hc hcc
      (hca.trans hma.symm) fun w hw => ?_
    have hw := (spells_congr hma).mp hw
    rw [← hcs w hw, hmr.wellFormed.accepts_iff_outcome, ← hmo w hw, hm.accepts_iff_outcome]

/-- The pairs agree about acceptance, and each symbol leads them to pairs again. -/
def Paired (m n : Automaton) (pairs : List (State × State)) : Prop :=
  ∀ p ∈ pairs, (p.1 ∈ m.accept ↔ p.2 ∈ n.accept) ∧ ∀ a ∈ m.alphabet, ∃ q ∈ pairs,
    m.target? p.1 a = some q.1 ∧ n.target? p.2 a = some q.2

instance (m n : Automaton) (pairs : List (State × State)) : Decidable (Paired m n pairs) :=
  inferInstanceAs (Decidable (∀ p ∈ pairs, _))

theorem Paired.outcome {pairs : List (State × State)} (h : Paired m n pairs) (hst : (s, t) ∈ pairs)
    (hw : m.Spells w) : m.outcome s w = n.outcome t w := by
  induction w generalizing s t with
  | nil =>
    rw [outcome_nil, outcome_nil, Option.some_inj, decide_eq_decide]
    exact (h _ hst).1
  | cons a w ih =>
    obtain ⟨ha, hw⟩ := spells_cons_iff.mp hw
    obtain ⟨q, hq, hs, ht⟩ := (h _ hst).2 a ha
    rw [outcome_cons, outcome_cons, hs, ht]
    exact ih hq hw

/-- The words with an even number of `b`, read with twice as many states as it takes. -/
def evenTwice : Automaton where
  states := ["p", "q", "r", "s"]
  alphabet := ["a", "b"]
  start := "p"
  accept := .ofList ["p", "q"]
  transitions := .ofList [(("p", "a"), .singleton "q"), (("p", "b"), .singleton "r"),
    (("q", "a"), .singleton "p"), (("q", "b"), .singleton "s"),
    (("r", "a"), .singleton "s"), (("r", "b"), .singleton "q"),
    (("s", "a"), .singleton "r"), (("s", "b"), .singleton "p")]

/-- The words with an even number of `b`, read with one state more than it takes. -/
def evenAfterStart : Automaton where
  states := ["odd", "even", "first"]
  alphabet := ["a", "b"]
  start := "first"
  accept := .ofList ["first", "even"]
  transitions := .ofList [(("first", "a"), .singleton "even"), (("first", "b"), .singleton "odd"),
    (("even", "a"), .singleton "even"), (("even", "b"), .singleton "odd"),
    (("odd", "a"), .singleton "odd"), (("odd", "b"), .singleton "even")]

theorem evenTwice_canonical :
    ∃ m' n', evenTwice.minimize = .ok m' ∧ evenAfterStart.minimize = .ok n' ∧
      (∃ f, Isomorphism m' n' f) ∧
      ∀ c : Automaton, c.WellFormed → c.isComplete = true → c.alphabet = evenTwice.alphabet →
        (∀ w, evenTwice.Spells w → (evenTwice.Accepts w ↔ c.Accepts w)) →
        m'.states.length ≤ c.states.length := by
  have hm : evenTwice.WellFormed := by decide +kernel
  have hn : evenAfterStart.WellFormed := by decide +kernel
  have hpaired : Paired evenTwice evenAfterStart
    [("p", "first"), ("q", "even"), ("p", "even"), ("r", "odd"), ("s", "odd")] := by decide +kernel
  refine minimize_complete_canonical hm hn (by decide +kernel) (by decide +kernel)
    (by decide +kernel) (by decide +kernel) rfl fun w hw => ?_
  rw [hm.accepts_iff_outcome, hn.accepts_iff_outcome]
  exact iff_of_eq (congrArg (· = some true) (hpaired.outcome List.mem_cons_self hw))

end FormalLanguages.Automaton
