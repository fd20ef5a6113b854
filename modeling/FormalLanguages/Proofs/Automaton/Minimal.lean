import FormalLanguages.Proofs.Automaton.Naming
import FormalLanguages.Proofs.Automaton.Quotient
import FormalLanguages.Proofs.Automaton.Trim
/-!
# The minimal automaton

What is minimized are the states to which words lead. Names of blocks are told apart by the parts
between their commas, as long as no name of a state begins like the name of a block.

Results:
* `minimize_merges_indistinct`: minimizing keeps the language, and merges the states that no word tells
  apart, among those to which words lead.
-/
namespace FormalLanguages.Automaton

variable {m : Automaton} {s t : State}

/-- The names of the states have neither commas nor braces. -/
def SimpleNames (m : Automaton) : Prop :=
  ∀ s ∈ m.states, ',' ∉ s.toList ∧ '\x7b' ∉ s.toList ∧ '\x7d' ∉ s.toList

instance (m : Automaton) : Decidable m.SimpleNames := inferInstanceAs (Decidable (∀ s ∈ m.states, _))

namespace WellFormed

theorem distinctNames_of_name_injective (hm : m.WellFormed)
    (h : ∀ b ∈ m.blocks, ∀ c ∈ m.blocks, b.name = c.name → b = c) : m.DistinctNames :=
  List.Nodup.map_on h hm.isPartition.nodup_blocks

/-- Names without commas and braces are read off the name of the block. -/
theorem distinctNames_of_simpleNames (hm : m.WellFormed) (hs : m.SimpleNames) : m.DistinctNames := by
  refine hm.distinctNames_of_name_injective fun b hb c hc h => ?_
  have hsimple : ∀ b ∈ m.blocks, ∀ s ∈ b, ',' ∉ s.toList ∧ '\x7b' ∉ s.toList ∧ '\x7d' ∉ s.toList :=
    fun b hb s hsb => hs s (hm.isPartition.mem_states hb hsb)
  rcases Block.of_name_eq (hm.isPartition.ne_nil b hb) (hm.isPartition.ne_nil c hc)
    (fun s h => (hsimple b hb s h).2.1) (fun s h => (hsimple c hc s h).2.1) h with
    ⟨s, rfl, rfl⟩ | ⟨-, -, hperm⟩
  · rfl
  · have hparts : ∀ b ∈ m.blocks, b.flatMap nameParts = b := fun b hb =>
      flatMap_nameParts_of_no_comma fun s hsb => (hsimple b hb s hsb).1
    rw [hparts b hb, hparts c hc] at hperm
    obtain ⟨s, hsb⟩ := List.exists_mem_of_ne_nil b (hm.isPartition.ne_nil b hb)
    exact hm.isPartition.eq_of_mem hb hc hsb (hperm.mem_iff.mp hsb)

/-- The minimal automaton is that of the blocks of the states that can be reached. -/
theorem minimize_eq (hm : m.WellFormed) : m.minimize = .ok m.trim.quotient := by
  rw [minimize, if_neg (not_not.mpr hm.start_mem), hm.trim.merged_eq]

theorem accepts_trim_iff (hm : m.WellFormed) {w : List Symbol} : m.trim.Accepts w ↔ m.Accepts w := by
  rw [accepts_iff_runAccepts hm.trim.isDeterministic, accepts_iff_runAccepts hm.isDeterministic,
    runAccepts_iff_outcome, runAccepts_iff_outcome]
  exact iff_of_eq (congrArg (· = some true) (outcome_trim m.start_mem_reachableStates w))

theorem indistinct_trim_iff (hm : m.WellFormed) (hs : m.Reached s) (ht : m.Reached t) :
    m.trim.Indistinct s t ↔ ¬ ∃ w, m.Spells w ∧ m.TellsApart w s t := by
  have hs := hm.mem_reachableStates_iff_reached.mpr hs
  have ht := hm.mem_reachableStates_iff_reached.mpr ht
  simp only [tellsApart_iff, not_exists, not_and, not_not, Indistinct, outcome_trim hs,
    outcome_trim ht]
  rfl

end WellFormed

/-- Minimizing a well-formed automaton gives one that accepts the same words. Its states are the names of
blocks of the states to which words lead; two of these are in one block exactly if no word tells them
apart. -/
theorem minimize_merges_indistinct (hm : m.WellFormed) (hs : m.SimpleNames) :
    ∃ n, m.minimize = .ok n ∧ n.states = m.trim.blocks.map Block.name ∧ n.states.Nodup ∧
      (∀ w, n.Accepts w ↔ m.Accepts w) ∧
      (∀ s t, m.Reached s → m.Reached t → ((∃ b ∈ m.trim.blocks, s ∈ b ∧ t ∈ b) ↔
        ¬ ∃ w, m.Spells w ∧ m.TellsApart w s t)) ∧
      ∀ s, (∃ b ∈ m.trim.blocks, s ∈ b) ↔ m.Reached s := by
  have htrim := hm.trim
  have hn : m.trim.DistinctNames := htrim.distinctNames_of_simpleNames fun s hst =>
    hs s (List.mem_filter.mp hst).1
  refine ⟨m.trim.quotient, hm.minimize_eq, rfl, hn, fun w => ?_, fun s t hrs hrt => ?_, fun s => ?_⟩
  · exact (htrim.accepts_quotient_iff hn).trans hm.accepts_trim_iff
  · rw [← hm.indistinct_trim_iff hrs hrt]
    exact htrim.sameBlock_blocks_iff (hm.mem_states_trim_iff.mpr hrs) (hm.mem_states_trim_iff.mpr hrt)
  · rw [← hm.mem_states_trim_iff, ← htrim.isPartition.mem_iff, List.mem_flatten]

/-- A partial automaton in which `q` and `r` do the same, and to `u` no word leads. -/
def diamond : Automaton where
  states := ["p", "q", "r", "s", "u"]
  alphabet := ["a", "b"]
  start := "p"
  accept := .ofList ["s", "u"]
  transitions := .ofList [(("p", "a"), .singleton "q"), (("p", "b"), .singleton "r"),
    (("q", "a"), .singleton "s"), (("r", "a"), .singleton "s"), (("u", "b"), .singleton "p")]

theorem diamond_minimize_merges :
    diamond.WellFormed ∧ diamond.SimpleNames ∧
    ∃ n, diamond.minimize = .ok n ∧ n.states = diamond.trim.blocks.map Block.name ∧ n.states.Nodup ∧
      (∀ w, n.Accepts w ↔ diamond.Accepts w) ∧
      (∀ s t, diamond.Reached s → diamond.Reached t → ((∃ b ∈ diamond.trim.blocks, s ∈ b ∧ t ∈ b) ↔
        ¬ ∃ w, diamond.Spells w ∧ diamond.TellsApart w s t)) ∧
      ∀ s, (∃ b ∈ diamond.trim.blocks, s ∈ b) ↔ diamond.Reached s := by
  have hm : diamond.WellFormed := by decide +kernel
  have hs : diamond.SimpleNames := by decide +kernel
  exact ⟨hm, hs, minimize_merges_indistinct hm hs⟩

end FormalLanguages.Automaton
