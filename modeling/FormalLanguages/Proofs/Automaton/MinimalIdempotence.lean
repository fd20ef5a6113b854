import FormalLanguages.Proofs.Automaton.Reduced
import FormalLanguages.Proofs.Automaton.Reordering
/-!
# Minimizing what is minimal

In a reduced automaton there is nothing to remove and nothing to merge: each block is a single state, and a single
state names its block, whatever the name is made of. So minimizing gives the automaton back. The blocks are
divided by acceptance first, so the states may come in another order, but for the start, whose block is always
first.

Results:
* `WellFormed.head?_states_quotient`: the start is the first state of the merged automaton.
* `Reduced.reordered_quotient`: merging changes nothing but the order of the states.
* `minimize_idempotent`: what is minimized again is the same but for the order of the states after the start.
-/
namespace FormalLanguages.Automaton

variable {m : Automaton} {s t : State} {a : Symbol} {b : Block}

/-! ## The first block -/

namespace WellFormed

/-- The block of the start comes first. -/
theorem head?_blocks (hm : m.WellFormed) : m.blocks.head? = some (m.blockOf m.start) := by
  obtain ⟨hmem, hstart⟩ := hm.blockOf_mem hm.start_mem
  -- before they are put in order, the blocks have one with the start
  obtain ⟨b, hb⟩ := Option.isSome_iff_exists.mp (List.find?_isSome.mpr
    ⟨_, m.blocks_perm.mem_iff.mp hmem, decide_eq_true hstart⟩ :
      ((m.refineAll m.states.length m.acceptanceBlocks).find? (m.start ∈ ·)).isSome = true)
  have hblocks : m.blocks = (m.refineAll m.states.length m.acceptanceBlocks).filter (m.start ∈ ·) ++
    (m.refineAll m.states.length m.acceptanceBlocks).filter (m.start ∉ ·) := rfl
  have hhead : m.blocks.head? = some b := by
    rw [hblocks, List.head?_append, List.head?_filter, hb]
    rfl
  rw [hhead, hm.blockOf_eq (List.mem_of_mem_head? hhead) (by simpa using List.find?_some hb)]

/-- The start is the first state of the merged automaton. -/
theorem head?_states_quotient (hm : m.WellFormed) :
    m.quotient.states.head? = some m.quotient.start := by
  change (m.blocks.map Block.name).head? = _
  rw [List.head?_map, hm.head?_blocks]
  rfl

end WellFormed

/-! ## Reduced automata -/

namespace Reduced

theorem mem_reachableStates (hm : m.Reduced) (hs : s ∈ m.states) : s ∈ m.reachableStates :=
  hm.wellFormed.mem_reachableStates_iff_reached.mpr (hm.reached s hs)

/-- Nothing is removed. -/
theorem trim_eq (hm : m.Reduced) : m.trim = m := by
  refine Automaton.ext ?_ rfl rfl (NameSet.ext fun s => ?_) (OrderedMap.ext_entries ?_)
  · exact List.filter_eq_self.mpr fun s hs => decide_eq_true (hm.mem_reachableStates hs)
  · rw [mem_accept_trim_iff]
    exact ⟨And.left, fun h => ⟨h, hm.mem_reachableStates (hm.wellFormed.accept_mem s h)⟩⟩
  · exact List.filter_eq_self.mpr fun e he =>
      decide_eq_true (hm.mem_reachableStates (hm.wellFormed.transition e he).1)

theorem sameBlock_iff (hm : m.Reduced) (hs : s ∈ m.states) (ht : t ∈ m.states) :
    SameBlock m.blocks s t ↔ s = t := by
  rw [hm.wellFormed.sameBlock_blocks_iff hs ht]
  exact ⟨hm.eq_of_indistinct s hs t ht, fun h _ _ => h ▸ rfl⟩

/-- Nothing is merged. -/
theorem blockOf_eq (hm : m.Reduced) (hs : s ∈ m.states) : m.blockOf s = [s] := by
  have hpart := hm.wellFormed.isPartition
  obtain ⟨hb, hsb⟩ := hm.wellFormed.blockOf_mem hs
  have hall : ∀ t ∈ m.blockOf s, t = s := fun t ht =>
    (hm.sameBlock_iff (hpart.mem_states hb ht) hs).mp ⟨_, hb, ht, hsb⟩
  exact List.perm_singleton.mp ((List.perm_ext_iff_of_nodup (hpart.nodup_block hb)
    (List.nodup_singleton s)).mpr fun t => by
      rw [List.mem_singleton]
      exact ⟨hall t, fun h => h ▸ hsb⟩)

/-- A state is the name of its block. -/
theorem mergedName_eq (hm : m.Reduced) (hs : s ∈ m.states) : m.mergedName s = s := by
  rw [mergedName, hm.blockOf_eq hs]
  rfl

theorem distinctNames (hm : m.Reduced) : m.DistinctNames := by
  have hwf := hm.wellFormed
  refine hwf.distinctNames_of_name_injective fun b hb c hc h => ?_
  have hone : ∀ b ∈ m.blocks, ∃ s, b = [s] := fun b hb => by
    obtain ⟨s, hs⟩ := List.exists_mem_of_ne_nil b (hwf.isPartition.ne_nil b hb)
    exact ⟨s, (hwf.blockOf_eq hb hs).symm.trans (hm.blockOf_eq (hwf.isPartition.mem_states hb hs))⟩
  obtain ⟨s, rfl⟩ := hone b hb
  obtain ⟨t, rfl⟩ := hone c hc
  exact congrArg (fun s => [s]) h

theorem mem_states_quotient_iff (hm : m.Reduced) : s ∈ m.quotient.states ↔ s ∈ m.states := by
  constructor
  · intro hs
    obtain ⟨t, ht, rfl⟩ := hm.wellFormed.exists_mergedName hs
    rwa [hm.mergedName_eq ht]
  · intro hs
    rw [← hm.mergedName_eq hs]
    exact List.mem_map_of_mem (hm.wellFormed.blockOf_mem hs).1

/-- Merging changes nothing but the order of the states. -/
theorem reordered_quotient (hm : m.Reduced) : Reordered m.quotient m where
  states := (List.perm_ext_iff_of_nodup hm.distinctNames hm.wellFormed.nodup).mpr fun _ =>
    hm.mem_states_quotient_iff
  alphabet := rfl
  start := hm.mergedName_eq hm.wellFormed.start_mem
  accept := NameSet.ext fun s => by
    have hnames : m.accept.toList.map m.mergedName = m.accept.toList :=
      (List.map_congr_left fun s hs => hm.mergedName_eq (hm.wellFormed.accept_mem s hs)).trans
        (List.map_id' _)
    rw [quotient, hnames, NameSet.mem_ofList]
    rfl
  transitions := fun ⟨s, a⟩ => Option.ext fun T => by
    have hwf := hm.wellFormed
    rw [hwf.get?_quotient_iff hm.distinctNames, hwf.get?_eq_some_iff]
    constructor
    · rintro ⟨r, b, t, htarget, he⟩
      obtain ⟨hr, -, ht⟩ := hwf.of_target? htarget
      rw [hm.mergedName_eq hr, hm.mergedName_eq ht] at he
      obtain ⟨⟨rfl, rfl⟩, rfl⟩ := by simpa using he
      exact ⟨t, htarget, rfl⟩
    · rintro ⟨t, htarget, rfl⟩
      obtain ⟨hs, -, ht⟩ := hwf.of_target? htarget
      exact ⟨s, a, t, htarget, by rw [hm.mergedName_eq hs, hm.mergedName_eq ht]⟩

/-- What is minimized from a reduced automaton is the automaton itself, with its start first. -/
theorem exists_minimize (hm : m.Reduced) :
    ∃ n, m.minimize = .ok n ∧ Reordered n m ∧ n.states.head? = some n.start := by
  refine ⟨m.quotient, ?_, hm.reordered_quotient, hm.wellFormed.head?_states_quotient⟩
  rw [hm.wellFormed.minimize_eq, hm.trim_eq]

end Reduced

/-- Minimizing what was minimized gives the same automaton, up to the order of the states after the start. -/
theorem minimize_idempotent (hm : m.WellFormed) (hs : m.SimpleNames) :
    ∃ n n', m.minimize = .ok n ∧ n.minimize = .ok n' ∧ Reordered n' n ∧
      n.states.head? = some n.start ∧ n'.states.head? = some n'.start := by
  obtain ⟨n, hn, hreduced, -⟩ := hm.reduced_minimize (hm.distinctNames_trim_of_simpleNames hs)
  obtain ⟨n', hn', hsame, hhead'⟩ := hreduced.exists_minimize
  refine ⟨n, n', hn, hn', hsame, ?_, hhead'⟩
  obtain rfl : m.trim.quotient = n := Except.ok.inj (hm.minimize_eq.symm.trans hn)
  exact hm.trim.head?_states_quotient

/-- A partial automaton in which `x` and `y` do the same, and so do `f` and `g`; to `u` no word leads. Its minimal
automaton has `z` last, and what is minimized from that has it before the block of `x` and `y`. -/
def detour : Automaton where
  states := ["x", "p", "z", "y", "f", "g", "u"]
  alphabet := ["a", "b", "c"]
  start := "p"
  accept := .ofList ["f", "g", "u"]
  transitions := .ofList [(("p", "a"), .singleton "x"), (("p", "b"), .singleton "z"),
    (("p", "c"), .singleton "y"), (("z", "a"), .singleton "p"), (("z", "b"), .singleton "z"),
    (("z", "c"), .singleton "z"), (("x", "a"), .singleton "f"), (("x", "b"), .singleton "g"),
    (("y", "a"), .singleton "g"), (("y", "b"), .singleton "f"), (("u", "c"), .singleton "z")]

theorem detour_minimize_idempotent :
    detour.WellFormed ∧ detour.SimpleNames ∧
    ∃ n n', detour.minimize = .ok n ∧ n.minimize = .ok n' ∧ Reordered n' n ∧
      n.states.head? = some n.start ∧ n'.states.head? = some n'.start := by
  have hm : detour.WellFormed := by decide +kernel
  have hs : detour.SimpleNames := by decide +kernel
  exact ⟨hm, hs, minimize_idempotent hm hs⟩

end FormalLanguages.Automaton
