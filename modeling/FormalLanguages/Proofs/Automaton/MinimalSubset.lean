import FormalLanguages.Proofs.Automaton.Completion
import FormalLanguages.Proofs.Automaton.Minimal
import FormalLanguages.Proofs.Automaton.Subset
/-!
# Minimizing the subset automaton

The names of sets have commas of their own: a block of `a,b` and `c` would be named like a block of `a`
and `b,c`. No two blocks have the same name nevertheless. A set does what its members do, and the
members are the parts of its name; so a block of two or more sets accepts a word exactly if two or more
of the parts of its name do, and such blocks with the same parts are one block. The dead state of a
completion adds a part that may be the name of a state, but it is one part only.

Results:
* `WellFormed.distinctNames_trim`: blocks have different names where what states do is read off the
  parts of their names.
* `wellFormed_determinize`: the subset automaton is well-formed.
* `minimize_determinize_equivalent`: minimizing the subset automaton, completed or not, succeeds and
  keeps the language.
-/
namespace FormalLanguages.Automaton

/-- All states that are mentioned are declared. -/
structure Declared (m : Automaton) : Prop where
  start_mem : m.start ∈ m.states
  accept_mem : ∀ s ∈ m.accept.toList, s ∈ m.states
  transition : ∀ e ∈ m.transitions.entries, e.1.1 ∈ m.states ∧ ∀ t ∈ e.2.toList, t ∈ m.states

instance (m : Automaton) : Decidable m.Declared :=
  decidable_of_iff (m.start ∈ m.states ∧ (∀ s ∈ m.accept.toList, s ∈ m.states) ∧
    ∀ e ∈ m.transitions.entries, e.1.1 ∈ m.states ∧ ∀ t ∈ e.2.toList, t ∈ m.states)
    ⟨fun ⟨h1, h2, h3⟩ => ⟨h1, h2, h3⟩, fun ⟨h1, h2, h3⟩ => ⟨h1, h2, h3⟩⟩

/-- States have a property exactly if a part of their name is of some kind, but for a state `d` that has
not got it. -/
def ReadOff (m : Automaton) (d : State) (P : State → Prop) : Prop :=
  ∃ kind : State → Prop, ∀ s ∈ m.states, (P s ↔ ∃ x ∈ nameParts s, kind x) ∨ s = d ∧ ¬ P s

variable {m : Automaton} {s t d : State} {a : Symbol} {w : List Symbol} {b c : Block}
  {T : NameSet} {P : State → Prop}

/-! ## Counting the parts of a name -/

theorem length_le_countP_nameParts {kind : State → Bool}
    (h : ∀ s ∈ b, ∃ x ∈ nameParts s, kind x = true) :
    b.length ≤ (b.flatMap nameParts).countP kind := by
  rw [List.countP_eq_length_filter, List.filter_flatMap]
  refine length_le_length_flatMap fun s hs => ?_
  obtain ⟨x, hx, hk⟩ := h s hs
  exact List.length_pos_of_mem (List.mem_filter.mpr ⟨hx, hk⟩)

theorem countP_nameParts_le_one {kind : State → Bool} (hd : (nameParts d).length = 1)
    (hb : b.Nodup) (h : ∀ s ∈ b, s ≠ d → ∀ x ∈ nameParts s, kind x = false) :
    (b.flatMap nameParts).countP kind ≤ 1 := by
  induction b with
  | nil => simp
  | cons s b ih =>
    obtain ⟨hs, hb⟩ := List.nodup_cons.mp hb
    obtain ⟨hhead, htail⟩ := List.forall_mem_cons.mp h
    rw [List.flatMap_cons, List.countP_append]
    by_cases hsd : s = d
    · subst hsd
      have hle : (nameParts s).countP kind ≤ 1 := hd ▸ List.countP_le_length
      have hzero : (b.flatMap nameParts).countP kind = 0 := by
        refine List.countP_eq_zero.mpr fun x hx => ?_
        obtain ⟨t, ht, hx⟩ := List.mem_flatMap.mp hx
        simp [htail t ht (ne_of_mem_of_not_mem ht hs) x hx]
      omega
    · have hzero : (nameParts s).countP kind = 0 :=
        List.countP_eq_zero.mpr fun x hx => by simp [hhead hsd x hx]
      have := ih hb htail
      omega

/-- Of two blocks with the same parts of names, both have a property or neither. -/
theorem ReadOff.not_of_perm (h : m.ReadOff d P) (hd : (nameParts d).length = 1)
    (hb : ∀ s ∈ b, s ∈ m.states) (hc : ∀ s ∈ c, s ∈ m.states) (hnodup : c.Nodup) (htwo : 2 ≤ b.length)
    (hperm : (b.flatMap nameParts).Perm (c.flatMap nameParts)) (hP : ∀ s ∈ b, P s)
    (hnot : ∀ s ∈ c, ¬ P s) : False := by
  classical
  obtain ⟨kind, hkind⟩ := h
  have hmany : b.length ≤ (b.flatMap nameParts).countP fun x => decide (kind x) := by
    refine length_le_countP_nameParts fun s hs => ?_
    rcases hkind s (hb s hs) with h | ⟨-, h⟩
    · simpa using h.mp (hP s hs)
    · exact absurd (hP s hs) h
  have hfew : (c.flatMap nameParts).countP (fun x => decide (kind x)) ≤ 1 := by
    refine countP_nameParts_le_one hd hnodup fun s hs hsd x hx => ?_
    rcases hkind s (hc s hs) with h | ⟨h, -⟩
    · exact decide_eq_false fun hk => hnot s hs (h.mpr ⟨x, hx, hk⟩)
    · exact absurd h hsd
  have := hperm.countP_eq fun x => decide (kind x)
  omega

/-- What one state of a block has, all of it have; so blocks with the same parts of names agree on all
that is read off. -/
theorem WellFormed.of_perm_nameParts (hm : m.WellFormed) (hd : (nameParts d).length = 1)
    (hread : m.ReadOff d P) (hsame : ∀ s t, SameBlock m.blocks s t → P s → P t) (hb : b ∈ m.blocks)
    (hc : c ∈ m.blocks) (htwo : 2 ≤ b.length) (hperm : (b.flatMap nameParts).Perm (c.flatMap nameParts))
    (hs : s ∈ b) (ht : t ∈ c) (hP : P s) : P t := by
  have hpart := hm.isPartition
  by_contra hnot
  exact hread.not_of_perm hd (fun _ => hpart.mem_states hb) (fun _ => hpart.mem_states hc)
    (hpart.nodup_block hc) htwo hperm (fun u hu => hsame s u ⟨b, hb, hs, hu⟩ hP)
    fun u hu hPu => hnot (hsame u t ⟨c, hc, hu, ht⟩ hPu)

/-- Blocks have different names where it is read off the parts of names which runs are defined and which
end with acceptance. -/
theorem WellFormed.distinctNames (hm : m.WellFormed) (hbrace : ∀ s ∈ m.states, '\x7b' ∉ s.toList)
    (hd : (nameParts d).length = 1)
    (h : ∀ w, m.Spells w → m.ReadOff d (fun s => (m.run? s w).isSome = true) ∧
      m.ReadOff d fun s => m.outcome s w = some true) : m.DistinctNames := by
  refine hm.distinctNames_of_name_injective fun b hb c hc hname => ?_
  have hpart := hm.isPartition
  have hmem : ∀ {b}, b ∈ m.blocks → ∀ s ∈ b, s ∈ m.states := fun hb s hs => hpart.mem_states hb hs
  rcases Block.of_name_eq (hpart.ne_nil b hb) (hpart.ne_nil c hc)
    (fun s hs => hbrace s (hmem hb s hs)) (fun s hs => hbrace s (hmem hc s hs)) hname with
    ⟨s, rfl, rfl⟩ | ⟨hb2, hc2, hperm⟩
  · rfl
  obtain ⟨s, hs⟩ := List.exists_mem_of_ne_nil b (hpart.ne_nil b hb)
  obtain ⟨t, ht⟩ := List.exists_mem_of_ne_nil c (hpart.ne_nil c hc)
  have hagree : ∀ {P : State → Prop}, m.ReadOff d P →
      (∀ s t, SameBlock m.blocks s t → (P s ↔ P t)) → (P s ↔ P t) := fun hread hsame =>
    ⟨hm.of_perm_nameParts hd hread (fun s t h => (hsame s t h).mp) hb hc hb2 hperm hs ht,
      hm.of_perm_nameParts hd hread (fun s t h => (hsame s t h).mp) hc hb hc2 hperm.symm ht hs⟩
  have hindistinct : m.Indistinct s t := fun w hw => by
    have hsame := fun s t h => outcome_eq_outcome_iff.mp
      (hm.indistinct_of_sameBlock (s := s) (t := t) h w hw)
    exact outcome_eq_outcome_iff.mpr ⟨hagree (h w hw).1 fun s t h => (hsame s t h).1,
      hagree (h w hw).2 fun s t h => (hsame s t h).2⟩
  obtain ⟨e, he, hse, hte⟩ := hm.sameBlock_of_indistinct (hmem hb s hs) (hmem hc t ht) hindistinct
  exact (hpart.eq_of_mem hb he hs hse).trans (hpart.eq_of_mem he hc hte ht)

theorem WellFormed.distinctNames_trim (hm : m.WellFormed)
    (hbrace : ∀ s ∈ m.states, '\x7b' ∉ s.toList) (hd : (nameParts d).length = 1)
    (h : ∀ w, m.Spells w → m.ReadOff d (fun s => (m.run? s w).isSome = true) ∧
      m.ReadOff d fun s => m.outcome s w = some true) : m.trim.DistinctNames := by
  have hmem : ∀ s ∈ m.trim.states, s ∈ m.states ∧ s ∈ m.reachableStates := fun s hs =>
    ⟨(List.mem_filter.mp hs).1, of_decide_eq_true (List.mem_filter.mp hs).2⟩
  refine hm.trim.distinctNames (fun s hs => hbrace s (hmem s hs).1) hd fun w hw => ?_
  obtain ⟨⟨k1, h1⟩, ⟨k2, h2⟩⟩ := h w hw
  refine ⟨⟨k1, fun s hs => ?_⟩, ⟨k2, fun s hs => ?_⟩⟩
  · simpa only [run?_trim (hmem s hs).2] using h1 s (hmem s hs).1
  · simpa only [outcome_trim (hmem s hs).2] using h2 s (hmem s hs).1

/-! ## What sets do -/

/-- The run from a set is defined where a path from a member spells the word. -/
theorem isSome_run?_determinize_iff (hm : m.PlainNames) (hε : epsilon ∉ m.alphabet)
    (hT : T ∈ m.subsets) (hw : m.Spells w) :
    (m.determinize.run? (setName T) w).isSome = true ↔ ∃ s ∈ T, ∃ t, m.Path s w t := by
  have hend : ∀ t, t ∈ m.stepAll T w ↔ ∃ s ∈ T, m.Path s w t := fun t =>
    mem_stepAll_iff (closed_of_mem_subsets hm hT) fun h => hε (hw _ h)
  have hsome : (m.determinize.run? (setName T) w).isSome = true ↔ ∃ t, t ∈ m.stepAll T w := by
    rw [run?_determinize hm hT hw, ← NameSet.not_isEmpty_iff]
    split <;> simp [*]
  rw [hsome]
  constructor
  · rintro ⟨t, ht⟩
    obtain ⟨s, hs, h⟩ := (hend t).mp ht
    exact ⟨s, hs, t, h⟩
  · rintro ⟨s, hs, t, h⟩
    exact ⟨t, (hend t).mpr ⟨s, hs, h⟩⟩

/-- The run from a set ends with acceptance where a path from a member does. -/
theorem outcome_determinize_iff (hm : m.PlainNames) (hε : epsilon ∉ m.alphabet)
    (hT : T ∈ m.subsets) (hw : m.Spells w) : m.determinize.outcome (setName T) w = some true ↔
      ∃ s ∈ T, ∃ t ∈ m.accept, m.Path s w t :=
  outcome_eq_true_iff.trans (run?_determinize_accepts_iff hm hε hT hw)

/-- The subset automaton is well-formed. -/
theorem wellFormed_determinize (hm : m.PlainNames) (hε : epsilon ∉ m.alphabet) :
    m.determinize.WellFormed where
  nodup := m.nodup_states
  start_mem := List.mem_map_of_mem m.closure_start_mem_subsets
  accept_mem s hs := by
    obtain ⟨T, hT, rfl⟩ := List.mem_map.mp (NameSet.mem_ofList.mp hs)
    exact List.mem_map_of_mem (List.mem_filter.mp hT).1
  transition e he := by
    have he : (e.1, e.2) ∈ m.subsetMoves :=
      OrderedMap.mem_of_get?_ofList (OrderedMap.mem_entries_iff.mp he)
    obtain ⟨T, hT, a, ha, hs, he⟩ := mem_subsetMoves_iff.mp he
    obtain rfl : e = _ := he
    exact ⟨List.mem_map_of_mem hT, ha, ne_of_mem_of_not_mem ha hε, _,
      List.mem_map_of_mem (step_mem_subsets hm hT ha hs), rfl⟩

/-! ## The names of the sets -/

namespace Declared

theorem mem_allTargets (hm : m.Declared) (h : s ∈ m.allTargets) : s ∈ m.states := by
  obtain ⟨e, he, hs⟩ := List.mem_flatMap.mp h
  exact (hm.transition e he).2 s hs

theorem plainNames (hm : m.Declared) (hs : m.SimpleNames) : m.PlainNames := by
  rintro s (rfl | h)
  · exact (hs _ hm.start_mem).1
  · exact (hs s (hm.mem_allTargets h)).1

theorem mem_states_of_mem_subsets (hm : m.Declared) (hT : T ∈ m.subsets) (hs : s ∈ T) :
    s ∈ m.states := by
  rcases (mem_possibleSets_iff.mp (mem_possibleSets_of_mem_subsets hT)).2 s hs with rfl | h
  · exact hm.start_mem
  · exact hm.mem_allTargets h

end Declared

theorem mem_states_determinize_iff : s ∈ m.determinize.states ↔ ∃ T ∈ m.subsets, setName T = s :=
  List.mem_map

theorem exists_mem_of_mem_subsets (hT : T ∈ m.subsets) : ∃ s, s ∈ T :=
  (mem_possibleSets_iff.mp (mem_possibleSets_of_mem_subsets hT)).1

theorem brace_not_mem_determinize (hm : m.Declared) (hs : m.SimpleNames)
    (h : s ∈ m.determinize.states) : '\x7b' ∉ s.toList := by
  obtain ⟨T, hT, rfl⟩ := mem_states_determinize_iff.mp h
  exact brace_not_mem_setName (exists_mem_of_mem_subsets hT) fun s hsT =>
    (hs s (hm.mem_states_of_mem_subsets hT hsT)).2.1

theorem mem_nameParts_iff_of_mem_subsets (hm : m.Declared) (hs : m.SimpleNames) (hT : T ∈ m.subsets) :
    s ∈ nameParts (setName T) ↔ s ∈ T :=
  mem_nameParts_setName_iff (exists_mem_of_mem_subsets hT) fun s hsT =>
    (hs s (hm.mem_states_of_mem_subsets hT hsT)).1

/-- A set ends with acceptance where the parts of its name do. -/
theorem readOff_outcome_determinize (hm : m.Declared) (hs : m.SimpleNames) (hε : epsilon ∉ m.alphabet)
    (hw : m.Spells w) (h : s ∈ m.determinize.states) :
    m.determinize.outcome s w = some true ↔ ∃ x ∈ nameParts s, ∃ t ∈ m.accept, m.Path x w t := by
  obtain ⟨T, hT, rfl⟩ := mem_states_determinize_iff.mp h
  rw [outcome_determinize_iff (hm.plainNames hs) hε hT hw]
  simp only [mem_nameParts_iff_of_mem_subsets hm hs hT]

theorem readOff_run?_determinize (hm : m.Declared) (hs : m.SimpleNames) (hε : epsilon ∉ m.alphabet)
    (hw : m.Spells w) (h : s ∈ m.determinize.states) :
    (m.determinize.run? s w).isSome = true ↔ ∃ x ∈ nameParts s, ∃ t, m.Path x w t := by
  obtain ⟨T, hT, rfl⟩ := mem_states_determinize_iff.mp h
  rw [isSome_run?_determinize_iff (hm.plainNames hs) hε hT hw]
  simp only [mem_nameParts_iff_of_mem_subsets hm hs hT]

/-- The blocks of the subset automaton have different names. -/
theorem distinctNames_determinize (hm : m.Declared) (hs : m.SimpleNames) (hε : epsilon ∉ m.alphabet) :
    m.determinize.trim.DistinctNames := by
  have hd : (nameParts "∅").length = 1 := by rw [nameParts_of_no_comma (by decide)]; rfl
  refine (wellFormed_determinize (hm.plainNames hs) hε).distinctNames_trim
    (fun s h => brace_not_mem_determinize hm hs h) hd fun w hw => ⟨?_, ?_⟩
  · exact ⟨_, fun s h => Or.inl (readOff_run?_determinize hm hs hε hw h)⟩
  · exact ⟨_, fun s h => Or.inl (readOff_outcome_determinize hm hs hε hw h)⟩

/-- The blocks of the completed subset automaton have different names. -/
theorem distinctNames_complete (hm : m.Declared) (hs : m.SimpleNames) (hε : epsilon ∉ m.alphabet)
    (hmissing : m.determinize.missing ≠ []) : m.determinize.complete.trim.DistinctNames := by
  have hd : (nameParts m.determinize.deadName).length = 1 := by
    rw [nameParts_of_no_comma fun h => by simpa using mem_deadName h]
    rfl
  have hdet := wellFormed_determinize (hm.plainNames hs) hε
  refine (hdet.complete hε).distinctNames_trim (fun s h => ?_) hd fun w hw => ⟨?_, ?_⟩
  · rcases (mem_states_complete_iff hmissing).mp h with h | rfl
    · exact brace_not_mem_determinize hm hs h
    · exact fun h => by simpa using mem_deadName h
  · -- all runs are defined
    refine ⟨fun _ => True, fun s h => Or.inl ?_⟩
    have hw := spells_complete_iff.mp hw
    have hrun : (m.determinize.complete.run? s w).isSome = true := by
      rw [← isSome_outcome]
      rcases (mem_states_complete_iff hmissing).mp h with h | rfl
      · rw [hdet.outcome_complete h hw]; rfl
      · rw [hdet.outcome_complete_dead hmissing hw]; rfl
    obtain ⟨x, hx⟩ := List.exists_mem_of_ne_nil _ (nameParts_ne_nil s)
    exact iff_of_true hrun ⟨x, hx, trivial⟩
  · refine ⟨fun x => ∃ t ∈ m.accept, m.Path x w t, fun s h => ?_⟩
    have hw := spells_complete_iff.mp hw
    rcases (mem_states_complete_iff hmissing).mp h with h | rfl
    · have hsame : m.determinize.complete.outcome s w = some true ↔
          m.determinize.outcome s w = some true := by
        rw [hdet.outcome_complete h hw]
        rcases m.determinize.outcome s w with _ | _ | _ <;> simp
      exact Or.inl (hsame.trans (readOff_outcome_determinize hm hs hε hw h))
    · have hdead := hdet.outcome_complete_dead hmissing hw
      exact Or.inr ⟨rfl, fun h => absurd (hdead.symm.trans h) (by simp)⟩

/-! ## The minimal automata -/

theorem accepts_determinize_iff (hm : m.PlainNames) (hε : epsilon ∉ m.alphabet) (hw : m.Spells w) :
    m.determinize.Accepts w ↔ m.Accepts w :=
  (accepts_iff_runAccepts (isDeterministic_determinize hε)).trans (runAccepts_determinize_iff hm hε hw)

theorem WellFormed.exists_minimize (hm : m.WellFormed) (hn : m.trim.DistinctNames) :
    ∃ n, m.minimize = .ok n ∧ n.states.Nodup ∧ ∀ w, n.Accepts w ↔ m.Accepts w :=
  ⟨m.trim.quotient, hm.minimize_eq, hn, fun _ =>
    (hm.trim.accepts_quotient_iff hn).trans hm.accepts_trim_iff⟩

/-- Minimizing the subset automaton as it is, and minimizing its completion, both give automata whose
states have different names and which accept the words of the given automaton. -/
theorem minimize_determinize_equivalent (hm : m.Declared) (hs : m.SimpleNames)
    (hε : epsilon ∉ m.alphabet) :
    (∃ n, m.determinize.minimize = .ok n ∧ n.states.Nodup ∧
      ∀ w, m.Spells w → (n.Accepts w ↔ m.Accepts w)) ∧
    ∃ n, m.determinize.complete.minimize = .ok n ∧ n.states.Nodup ∧
      ∀ w, m.Spells w → (n.Accepts w ↔ m.Accepts w) := by
  have hplain := hm.plainNames hs
  have hdet := wellFormed_determinize hplain hε
  have hpartial : ∃ n, m.determinize.minimize = .ok n ∧ n.states.Nodup ∧
      ∀ w, m.Spells w → (n.Accepts w ↔ m.Accepts w) := by
    obtain ⟨n, hn, hnodup, hacc⟩ := hdet.exists_minimize (distinctNames_determinize hm hs hε)
    exact ⟨n, hn, hnodup, fun w hw => (hacc w).trans (accepts_determinize_iff hplain hε hw)⟩
  refine ⟨hpartial, ?_⟩
  by_cases hmissing : m.determinize.missing = []
  · rwa [complete_of_missing_eq_nil hmissing]
  · obtain ⟨n, hn, hnodup, hacc⟩ :=
      (hdet.complete hε).exists_minimize (distinctNames_complete hm hs hε hmissing)
    exact ⟨n, hn, hnodup, fun w hw => (hacc w).trans
      ((hdet.accepts_complete_iff hε hw).trans (accepts_determinize_iff hplain hε hw))⟩

/-- An automaton with two targets of one transition and an `ε`-move. Its sets `a,b` and `c` do the same,
so that there is a block `a,b,c` between braces. -/
def fork : Automaton where
  states := ["p", "q", "a", "b", "c"]
  alphabet := ["x", "y"]
  start := "p"
  accept := .ofList ["a", "c"]
  transitions := .ofList [(("p", "x"), .ofList ["a", "b"]), (("p", epsilon), .singleton "q"),
    (("q", "y"), .singleton "c")]

theorem fork_minimize_determinize :
    fork.Declared ∧ fork.SimpleNames ∧ epsilon ∉ fork.alphabet ∧
    (∃ n, fork.determinize.minimize = .ok n ∧ n.states.Nodup ∧
      ∀ w, fork.Spells w → (n.Accepts w ↔ fork.Accepts w)) ∧
    ∃ n, fork.determinize.complete.minimize = .ok n ∧ n.states.Nodup ∧
      ∀ w, fork.Spells w → (n.Accepts w ↔ fork.Accepts w) := by
  have hm : fork.Declared := by decide +kernel
  have hs : fork.SimpleNames := by decide +kernel
  have hε : epsilon ∉ fork.alphabet := by decide
  exact ⟨hm, hs, hε, minimize_determinize_equivalent hm hs hε⟩

end FormalLanguages.Automaton
