import FormalLanguages.Automaton.Analysis
import FormalLanguages.Proofs.Automaton.Description
import FormalLanguages.Proofs.Automaton.Reduced
/-!
# The fewest states

What an analysis minimizes is the subset automaton before its completion, and a missing transition tells
states apart. So a state from which no word is accepted differs from one that is not there, and the
result has the fewest states among the automata with the same words and the same runs. A complete
automaton with the same words may have fewer: exactly if two sets accept the same words but do not have
the same runs.

Results:
* `length_states_le_iff`: when a reduced automaton has as few states as a complete one.
* `analyzeText_minimal_fewest`: the same of the minimal automaton of a text.
* `deadEnds_not_fewest`: a text for which the answer is no.
-/
namespace FormalLanguages.Automaton

/-- States that accept the same words have runs on the same words. -/
def RunsSettled (m : Automaton) : Prop := ∀ s ∈ m.states, ∀ t ∈ m.states, SameWords m m s t →
  ∀ w, m.Spells w → ((m.run? s w).isSome ↔ (m.run? t w).isSome)

variable {m n c : Automaton} {s t : State} {w : List Symbol}

/-! ## Against automata with the same runs -/

/-- No automaton that does the same has fewer states than a reduced one. -/
theorem Reduced.length_states_le (hn : n.Reduced) (hc : c.WellFormed)
    (halphabet : c.alphabet = n.alphabet) (hsame : SameOutcomes n c) :
    n.states.length ≤ c.states.length := by
  refine length_le_of_relation (r := Corresponds n c) hn.wellFormed.nodup (fun s hs => ?_)
    fun s _ s' _ t h h' => ?_
  · obtain ⟨t, h⟩ := exists_corresponds hsame (hn.reached s hs)
    exact ⟨t, h.mem_states hc, h⟩
  · exact hn.corresponds_unique halphabet.symm (hsame.symm halphabet) (h.symm halphabet)
      (h'.symm halphabet)

/-! ## Against complete automata -/

/-- Minimizing the completed subset automaton gives a reduced complete automaton with the same words. -/
theorem Declared.exists_reduced_complete (hm : m.Declared) (hs : m.SimpleNames)
    (hε : epsilon ∉ m.alphabet) : ∃ c : Automaton, c.Reduced ∧ c.isComplete = true ∧
      c.alphabet = m.alphabet ∧ ∀ w, m.Spells w → (m.Accepts w ↔ c.Accepts w) := by
  have hplain := hm.plainNames hs
  have hdet := wellFormed_determinize hplain hε
  have hcomplete := hdet.complete hε
  have hnames : m.determinize.complete.trim.DistinctNames := by
    by_cases hmissing : m.determinize.missing = []
    · rw [complete_of_missing_eq_nil hmissing]
      exact distinctNames_determinize hm hs hε
    · exact distinctNames_complete hm hs hε hmissing
  obtain ⟨c, -, hc, halphabet, hsame⟩ := hcomplete.reduced_minimize hnames
  have halphabet' : c.alphabet = m.alphabet := halphabet.trans (alphabet_complete _)
  refine ⟨c, hc, hsame.isComplete hcomplete m.determinize.isComplete_complete halphabet hc.reached, halphabet',
    fun w hw => ?_⟩
  rw [← accepts_determinize_iff hplain hε hw, ← hdet.accepts_complete_iff hε hw,
    hcomplete.accepts_iff_outcome, hc.wellFormed.accepts_iff_outcome,
    hsame w (spells_complete_iff.mpr hw)]

/-- A state of a reduced automaton from which nothing is accepted, if two states accept the same
words. -/
theorem Reduced.exists_dead (hn : n.Reduced) (hs : s ∈ n.states) (ht : t ∈ n.states) (hne : s ≠ t)
    (h : SameWords n n s t) : ∃ z ∈ n.states, ∀ w, n.Spells w → n.outcome z w ≠ some true := by
  have hapart : ∃ w, n.Spells w ∧ n.outcome s w ≠ n.outcome t w := by
    by_contra hno
    push Not at hno
    exact hne (hn.eq_of_indistinct s hs t ht hno)
  obtain ⟨v, hv, hapart⟩ := hapart
  have hdefined : ¬ ((n.run? s v).isSome ↔ (n.run? t v).isSome) := fun hdefined =>
    hapart (outcome_eq_outcome_iff.mpr ⟨hdefined, h v hv⟩)
  -- where one run ends the other is not defined, so nothing is accepted from its end
  have hend : ∀ {s t z}, s ∈ n.states → SameWords n n s t → n.run? s v = some z →
      n.run? t v = none → ∃ z ∈ n.states, ∀ w, n.Spells w → n.outcome z w ≠ some true := by
    intro s t z hs h hz hnone
    refine ⟨z, (hn.wellFormed.run?_mem hs hz).1, fun w hw hacc => ?_⟩
    have h := (h (v ++ w) (spells_append_iff.mpr ⟨hv, hw⟩)).mp (by rwa [outcome_append, hz])
    rw [outcome_append, hnone] at h
    cases h
  cases hrs : n.run? s v with
  | none =>
    cases hrt : n.run? t v with
    | none => simp [hrs, hrt] at hdefined
    | some z => exact hend ht (fun w hw => (h w hw).symm) hrt hrs
  | some z =>
    cases hrt : n.run? t v with
    | none => exact hend hs h hrs hrt
    | some z' => simp [hrs, hrt] at hdefined

/-- If states of a reduced automaton accept the same words, then it has more states than a reduced
complete automaton with the same words. -/
theorem Reduced.length_states_lt (hn : n.Reduced) (hs : s ∈ n.states) (ht : t ∈ n.states) (hne : s ≠ t)
    (h : SameWords n n s t) (hc : c.Reduced) (hcc : c.isComplete = true)
    (halphabet : c.alphabet = n.alphabet) (hsame : ∀ w, n.Spells w → (n.Accepts w ↔ c.Accepts w)) :
    c.states.length < n.states.length := by
  obtain ⟨z, hz, hdead⟩ := hn.exists_dead hs ht hne h
  have hstand : ∀ u ∈ c.states, ∃ x ∈ n.states, SameWords n c x u := fun u hu => by
    obtain ⟨v, hv, hrun⟩ := hc.reached u hu
    have hv := (spells_congr halphabet).mp hv
    cases hrun' : n.run? n.start v with
    | some x => exact ⟨x, (hn.wellFormed.run?_mem hn.wellFormed.start_mem hrun').1,
        sameWords_of_run? hn.wellFormed hc.wellFormed hsame hv hrun' hrun⟩
    | none =>
      refine ⟨z, hz, fun w hw => iff_of_false (hdead w hw) fun hacc => ?_⟩
      have hword := hsame (v ++ w) (spells_append_iff.mpr ⟨hv, hw⟩)
      rw [hn.wellFormed.accepts_iff_outcome, hc.wellFormed.accepts_iff_outcome, outcome_append,
        outcome_append, hrun, hrun'] at hword
      exact absurd (hword.mpr hacc) (by simp)
  have hle : c.states.length ≤ (n.states.erase t).length := by
    refine length_le_of_relation (r := fun u x => SameWords n c x u) hc.wellFormed.nodup
      (fun u hu => ?_) fun u hu u' hu' x hx hx' => ?_
    · obtain ⟨x, hx, hxu⟩ := hstand u hu
      by_cases hxt : x = t
      · subst hxt
        exact ⟨s, (List.mem_erase_of_ne hne).mpr hs, fun w hw => (h w hw).trans (hxu w hw)⟩
      · exact ⟨x, (List.mem_erase_of_ne hxt).mpr hx, hxu⟩
    · refine hc.eq_of_sameWords hcc u hu u' hu' fun w hw => ?_
      have hw := (spells_congr halphabet).mp hw
      exact (hx w hw).symm.trans (hx' w hw)
  have hpos := List.length_pos_of_mem ht
  rw [List.length_erase_of_mem ht] at hle
  omega

theorem SameOutcomes.accepts_iff (hsame : SameOutcomes m n) (hm : m.WellFormed) (hn : n.WellFormed)
    (hw : m.Spells w) : n.Accepts w ↔ m.Accepts w := by
  rw [hn.accepts_iff_outcome, hm.accepts_iff_outcome, hsame w hw]

/-- Where states that accept the same words have the same runs, no complete automaton with the same words
has fewer states than a reduced one that does the same. -/
theorem RunsSettled.length_states_le (hsettled : m.RunsSettled) (hm : m.WellFormed) (hn : n.Reduced)
    (halphabet : n.alphabet = m.alphabet) (hsame : SameOutcomes m n) {c : Automaton} (hc : c.WellFormed)
    (hcc : c.isComplete = true) (hca : c.alphabet = m.alphabet)
    (hcw : ∀ w, m.Spells w → (m.Accepts w ↔ c.Accepts w)) : n.states.length ≤ c.states.length := by
  have hspells : ∀ {w}, n.Spells w ↔ m.Spells w := spells_congr halphabet
  refine Automaton.length_states_le hn.wellFormed hn.reached (fun s' hs' t' ht' h => ?_) hc hcc
    (hca.trans halphabet.symm) fun w hw =>
      (hsame.accepts_iff hm hn.wellFormed (hspells.mp hw)).trans (hcw w (hspells.mp hw))
  have hsame' := hsame.symm halphabet
  obtain ⟨s, hs⟩ := exists_corresponds hsame' (hn.reached s' hs')
  obtain ⟨t, ht⟩ := exists_corresponds hsame' (hn.reached t' ht')
  have hst : SameWords m m s t := fun w hw => by
    have hw := hspells.mpr hw
    rw [← hs.outcome hsame' hw, ← ht.outcome hsame' hw]
    exact h w hw
  refine hn.eq_of_indistinct s' hs' t' ht' fun w hw => ?_
  rw [hs.outcome hsame' hw, ht.outcome hsame' hw]
  have hw := hspells.mp hw
  exact outcome_eq_outcome_iff.mpr
    ⟨hsettled s (hs.mem_states hm) t (ht.mem_states hm) hst w hw, hst w hw⟩

/-- Where a reduced automaton that does the same has no more states than a reduced complete one with the same
words, states that accept the same words have the same runs. -/
theorem RunsSettled.of_length_states_le (hm : m.WellFormed) (hreached : ∀ s ∈ m.states, m.Reached s)
    (hn : n.Reduced) (halphabet : n.alphabet = m.alphabet) (hsame : SameOutcomes m n) {c : Automaton}
    (hc : c.Reduced) (hcc : c.isComplete = true) (hca : c.alphabet = m.alphabet)
    (hcw : ∀ w, m.Spells w → (m.Accepts w ↔ c.Accepts w)) (hle : n.states.length ≤ c.states.length) :
    m.RunsSettled := by
  intro s hs t ht h w hw
  have hspells : ∀ {w}, n.Spells w ↔ m.Spells w := spells_congr halphabet
  obtain ⟨s', hs'⟩ := exists_corresponds hsame (hreached s hs)
  obtain ⟨t', ht'⟩ := exists_corresponds hsame (hreached t ht)
  have h' : SameWords n n s' t' := fun w hw => by
    have hw := hspells.mp hw
    rw [← hs'.outcome hsame hw, ← ht'.outcome hsame hw]
    exact h w hw
  have heq : s' = t' := by
    by_contra hne
    refine absurd hle (Nat.not_le.mpr ?_)
    refine hn.length_states_lt (hs'.mem_states hn.wellFormed) (ht'.mem_states hn.wellFormed) hne h'
      hc hcc (hca.trans halphabet.symm) fun w hw => ?_
    have hw := hspells.mp hw
    exact (hsame.accepts_iff hm hn.wellFormed hw).trans (hcw w hw)
  rw [← isSome_outcome, ← isSome_outcome, hs'.outcome hsame hw, ht'.outcome hsame hw, heq]

/-- A reduced automaton that does the same has as few states as a complete one with the same words,
exactly if states that accept the same words have the same runs. -/
theorem length_states_le_iff (hm : m.WellFormed) (hreached : ∀ s ∈ m.states, m.Reached s)
    (hn : n.Reduced) (halphabet : n.alphabet = m.alphabet) (hsame : SameOutcomes m n)
    (hc : ∃ c : Automaton, c.Reduced ∧ c.isComplete = true ∧ c.alphabet = m.alphabet ∧
      ∀ w, m.Spells w → (m.Accepts w ↔ c.Accepts w)) :
    (∀ c : Automaton, c.WellFormed → c.isComplete = true → c.alphabet = m.alphabet →
      (∀ w, m.Spells w → (m.Accepts w ↔ c.Accepts w)) → n.states.length ≤ c.states.length) ↔
    m.RunsSettled := by
  constructor
  · intro hleast
    obtain ⟨c, hc, hcc, hca, hcw⟩ := hc
    exact .of_length_states_le hm hreached hn halphabet hsame hc hcc hca hcw
      (hleast c hc.wellFormed hcc hca hcw)
  · intro hsettled c hc hcc hca hcw
    exact hsettled.length_states_le hm hn halphabet hsame hc hcc hca hcw

/-! ## The analysis of a text -/

theorem reached_determinize (hm : m.PlainNames) : ∀ s ∈ m.determinize.states, m.determinize.Reached s :=
  fun _ hs => exists_run?_determinize (m := m) hm hs

theorem simpleNames_of_parse {text : String} (h : parse text = .ok m)
    (hbrace : ∀ s ∈ m.states, '\x7b' ∉ s.toList ∧ '\x7d' ∉ s.toList) : m.SimpleNames := fun s hs =>
  ⟨comma_not_mem_of_parse h hs, hbrace s hs⟩

/-- The minimal automaton of a text has as few states as any automaton that does the same as the subset
automaton. It has as few as any complete automaton with the same words, exactly if sets that accept the
same words have the same runs. -/
theorem analyzeText_minimal_fewest {text : String} {r : AutomatonAnalysis}
    (h : analyzeText text = .ok r)
    (hbrace : ∀ s ∈ r.nfa.states, '\x7b' ∉ s.toList ∧ '\x7d' ∉ s.toList) :
    ∃ n, r.minimal = .ok n ∧
      (∀ c : Automaton, c.WellFormed → c.alphabet = r.nfa.alphabet → SameOutcomes r.dfa c →
        n.states.length ≤ c.states.length) ∧
      ((∀ c : Automaton, c.WellFormed → c.isComplete = true → c.alphabet = r.nfa.alphabet →
        (∀ w, r.nfa.Spells w → (r.nfa.Accepts w ↔ c.Accepts w)) →
        n.states.length ≤ c.states.length) ↔ r.dfa.RunsSettled) := by
  unfold analyzeText at h
  cases hparse : parse text with
  | error e => rw [hparse] at h; cases h
  | ok m =>
    rw [hparse] at h
    obtain rfl : m.analyze = r := Except.ok.inj h
    have hm : m.Declared := (of_parse hparse).1
    have hε := epsilon_not_mem_of_parse hparse
    have hs := simpleNames_of_parse hparse hbrace
    have hplain := hm.plainNames hs
    have hdet := wellFormed_determinize hplain hε
    obtain ⟨n, hmin, hn, halphabet, hsame⟩ :=
      hdet.reduced_minimize (distinctNames_determinize hm hs hε)
    have hwords : ∀ w, m.Spells w → (m.determinize.Accepts w ↔ m.Accepts w) := fun w hw =>
      accepts_determinize_iff hplain hε hw
    refine ⟨n, hmin, fun c hc hca hcs => hn.length_states_le hc (hca.trans halphabet.symm)
      fun w hw => ?_, ?_⟩
    · have hw := (spells_congr halphabet).mp hw
      exact (hsame w hw).symm.trans (hcs w hw)
    · obtain ⟨c, hc, hcc, hca, hcw⟩ := hm.exists_reduced_complete hs hε
      have hleast := length_states_le_iff hdet (reached_determinize hplain) hn halphabet hsame
        ⟨c, hc, hcc, hca, fun w hw => (hwords w hw).trans (hcw w hw)⟩
      refine Iff.trans ?_ hleast
      refine forall_congr' fun c => imp_congr_right fun _ => imp_congr_right fun _ =>
        imp_congr_right fun _ => imp_congr_left (forall₂_congr fun w hw => ?_)
      exact iff_congr (hwords w hw).symm Iff.rfl

/-- Nothing is accepted from `q1` and `q2`, but only `q1` has a move. -/
def deadEnds : String :=
  "States: q0, q1, q2\nAlphabet: a\nStart: q0\nAccept: q0\nTransitions: q0,a->q1; q1,a->q2"

/-- What `deadEnds` describes. -/
def deadEndsAutomaton : Automaton where
  states := ["q0", "q1", "q2"]
  alphabet := ["a"]
  start := "q0"
  accept := .ofList ["q0"]
  transitions := .ofList [(("q0", "a"), .singleton "q1"), (("q1", "a"), .singleton "q2")]

theorem parse_deadEnds : parse deadEnds = .ok deadEndsAutomaton := by decide +kernel

theorem deadEnds_minimal_fewest : ∃ r, analyzeText deadEnds = .ok r ∧
    (∀ s ∈ r.nfa.states, '\x7b' ∉ s.toList ∧ '\x7d' ∉ s.toList) ∧
    ∃ n, r.minimal = .ok n ∧
      (∀ c : Automaton, c.WellFormed → c.alphabet = r.nfa.alphabet → SameOutcomes r.dfa c →
        n.states.length ≤ c.states.length) ∧
      ((∀ c : Automaton, c.WellFormed → c.isComplete = true → c.alphabet = r.nfa.alphabet →
        (∀ w, r.nfa.Spells w → (r.nfa.Accepts w ↔ c.Accepts w)) →
        n.states.length ≤ c.states.length) ↔ r.dfa.RunsSettled) := by
  have h : analyzeText deadEnds = .ok deadEndsAutomaton.analyze := by
    rw [analyzeText, parse_deadEnds]; rfl
  have hbrace : ∀ s ∈ deadEndsAutomaton.states, '\x7b' ∉ s.toList ∧ '\x7d' ∉ s.toList := by
    decide +kernel
  exact ⟨_, h, hbrace, analyzeText_minimal_fewest h hbrace⟩

/-- A complete automaton for the empty word. -/
def onlyEmpty : Automaton where
  states := ["yes", "no"]
  alphabet := ["a"]
  start := "yes"
  accept := .ofList ["yes"]
  transitions := .ofList [(("yes", "a"), .singleton "no"), (("no", "a"), .singleton "no")]

/-- Two states are enough for the words of `deadEnds`, but the minimal automaton has three. -/
theorem deadEnds_not_fewest : ∃ r n, analyzeText deadEnds = .ok r ∧
    (∀ s ∈ r.nfa.states, '\x7b' ∉ s.toList ∧ '\x7d' ∉ s.toList) ∧ r.minimal = .ok n ∧
    onlyEmpty.WellFormed ∧ onlyEmpty.isComplete = true ∧ onlyEmpty.alphabet = r.nfa.alphabet ∧
    (∀ w, r.nfa.Spells w → (r.nfa.Accepts w ↔ onlyEmpty.Accepts w)) ∧
    onlyEmpty.states.length < n.states.length := by
  have h : analyzeText deadEnds = .ok deadEndsAutomaton.analyze := by
    rw [analyzeText, parse_deadEnds]; rfl
  have hm : deadEndsAutomaton.WellFormed := by decide +kernel
  have hε : epsilon ∉ deadEndsAutomaton.alphabet := by decide
  have hdet : deadEndsAutomaton.determinize.WellFormed := by decide +kernel
  have hc : onlyEmpty.WellFormed := by decide +kernel
  have hpaired : Paired deadEndsAutomaton.complete onlyEmpty
    [("q0", "yes"), ("q1", "no"), ("q2", "no"), ("∅", "no")] := by decide +kernel
  have hlength : onlyEmpty.states.length < deadEndsAutomaton.determinize.trim.quotient.states.length := by
    decide +kernel
  have hminimal : deadEndsAutomaton.analyze.minimal = .ok deadEndsAutomaton.determinize.trim.quotient :=
    hdet.minimize_eq
  have hbrace : ∀ s ∈ deadEndsAutomaton.states, '\x7b' ∉ s.toList ∧ '\x7d' ∉ s.toList := by
    decide +kernel
  refine ⟨deadEndsAutomaton.analyze, _, h, hbrace, hminimal, hc, by decide +kernel, rfl,
    fun w hw => ?_, hlength⟩
  have hcomplete := hm.complete hε
  rw [show deadEndsAutomaton.analyze.nfa = deadEndsAutomaton from rfl,
    ← hm.accepts_complete_iff hε hw, hcomplete.accepts_iff_outcome, hc.accepts_iff_outcome]
  exact iff_of_eq (congrArg (· = some true)
    (hpaired.outcome List.mem_cons_self (spells_complete_iff.mpr hw)))

end FormalLanguages.Automaton
