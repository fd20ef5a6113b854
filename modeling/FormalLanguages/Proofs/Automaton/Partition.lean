import FormalLanguages.Proofs.Automaton.Run
import FormalLanguages.Proofs.Grouping
import Mathlib.Data.List.Pairwise
/-!
# Refining a partition

A round divides each block by the blocks to which the transitions of its states lead. Two states stay
together in a round exactly if they were together and lead to the same blocks. A round that divides
something makes the blocks more, and there are never more blocks than states; so the rounds come to an
end.

Results:
* `sameBlock_refine_iff`: which states a round leaves together.
* `stable_refineAll`: the rounds end with blocks whose states lead to the same blocks.
* `WellFormed.sameBlock_blocks_iff`: states are in one block at the end exactly if no word tells them apart.
-/
namespace FormalLanguages.Automaton

/-- The blocks are made of the states, each of which is in one of them, and none is empty. -/
structure IsPartition (states : List State) (blocks : List Block) : Prop where
  ne_nil : ∀ b ∈ blocks, b ≠ []
  nodup : blocks.flatten.Nodup
  mem_iff : ∀ s, s ∈ blocks.flatten ↔ s ∈ states

/-- The states are together in a block. -/
def SameBlock (blocks : List Block) (s t : State) : Prop := ∃ b ∈ blocks, s ∈ b ∧ t ∈ b

/-- States that are together lead to the same blocks. -/
def Stable (m : Automaton) (blocks : List Block) : Prop :=
  ∀ s t, SameBlock blocks s t → m.signature blocks s = m.signature blocks t

/-- No word of the input symbols tells the states apart. -/
def Indistinct (m : Automaton) (s t : State) : Prop :=
  ∀ w, m.Spells w → m.outcome s w = m.outcome t w

variable {m : Automaton} {states : List State} {blocks : List Block} {b c : Block}
  {s t : State} {a : Symbol} {i : Nat}

theorem SameBlock.symm (h : SameBlock blocks s t) : SameBlock blocks t s :=
  have ⟨b, hb, hs, ht⟩ := h
  ⟨b, hb, ht, hs⟩

theorem sameBlock_congr {blocks' : List Block} (h : ∀ b, b ∈ blocks ↔ b ∈ blocks') :
    SameBlock blocks s t ↔ SameBlock blocks' s t := by
  simp [SameBlock, h]

/-! ## Blocks and their numbers -/

namespace IsPartition

theorem perm {blocks' : List Block} (h : IsPartition states blocks) (hp : blocks.Perm blocks') :
    IsPartition states blocks' where
  ne_nil b hb := h.ne_nil b (hp.mem_iff.mpr hb)
  nodup := (List.Perm.flatten hp).nodup_iff.mp h.nodup
  mem_iff s := ((List.Perm.flatten hp).mem_iff).symm.trans (h.mem_iff s)

/-- A state is in one block only. -/
theorem eq_of_mem (h : IsPartition states blocks) (hb : b ∈ blocks) (hc : c ∈ blocks) (hsb : s ∈ b)
    (hsc : s ∈ c) : b = c := by
  by_contra hne
  have : Std.Symm (List.Disjoint (α := State)) := ⟨fun _ _ h _ hs ht => h ht hs⟩
  exact (List.nodup_flatten.mp h.nodup).2.forall hb hc hne hsb hsc

theorem exists_block (h : IsPartition states blocks) (hs : s ∈ states) : ∃ b ∈ blocks, s ∈ b :=
  List.mem_flatten.mp ((h.mem_iff s).mpr hs)

theorem mem_states (h : IsPartition states blocks) (hb : b ∈ blocks) (hs : s ∈ b) : s ∈ states :=
  (h.mem_iff s).mp (List.mem_flatten.mpr ⟨b, hb, hs⟩)

theorem nodup_block (h : IsPartition states blocks) (hb : b ∈ blocks) : b.Nodup :=
  (List.nodup_flatten.mp h.nodup).1 b hb

theorem nodup_blocks (h : IsPartition states blocks) : blocks.Nodup :=
  (List.nodup_flatten.mp h.nodup).2.imp_of_mem fun {b _} hb _ hd e => by
    obtain ⟨s, hs⟩ := List.exists_mem_of_ne_nil b (h.ne_nil b hb)
    exact hd hs (e ▸ hs)

/-- There are at most as many blocks as states. -/
theorem length_le (h : IsPartition states blocks) : blocks.length ≤ states.length := by
  have hlen : blocks.length ≤ blocks.flatten.length := by
    rw [← List.flatMap_id]
    exact length_le_length_flatMap fun b hb => List.length_pos_iff.mpr (h.ne_nil b hb)
  exact Nat.le_trans hlen (h.nodup.length_le_of_subset fun s hs => (h.mem_iff s).mp hs)

theorem blockIndex?_eq_some_iff (h : IsPartition states blocks) :
    blockIndex? blocks s = some i ↔ ∃ b, blocks[i]? = some b ∧ s ∈ b := by
  constructor
  · intro hi
    obtain ⟨hlt, hs, -⟩ := List.findIdx?_eq_some_iff_getElem.mp hi
    exact ⟨blocks[i], List.getElem?_eq_getElem hlt, of_decide_eq_true hs⟩
  · rintro ⟨b, hb, hs⟩
    obtain ⟨hlt, rfl⟩ := List.getElem?_eq_some_iff.mp hb
    refine List.findIdx?_eq_some_iff_getElem.mpr ⟨hlt, decide_eq_true hs, fun j hj hsj => ?_⟩
    have hdisjoint := List.pairwise_iff_getElem.mp (List.nodup_flatten.mp h.nodup).2
    exact hdisjoint j i (Nat.lt_trans hj hlt) hlt hj (of_decide_eq_true hsj) hs

theorem blockIndex?_isSome (h : IsPartition states blocks) (hs : s ∈ states) :
    (blockIndex? blocks s).isSome := by
  obtain ⟨b, hb, hs⟩ := h.exists_block hs
  obtain ⟨i, hi⟩ := List.mem_iff_getElem?.mp hb
  exact Option.isSome_of_eq_some (h.blockIndex?_eq_some_iff.mpr ⟨b, hi, hs⟩)

/-- Blocks are told apart by their numbers. -/
theorem blockIndex?_eq_iff (h : IsPartition states blocks) (hs : s ∈ states) :
    blockIndex? blocks s = blockIndex? blocks t ↔ SameBlock blocks s t := by
  constructor
  · intro he
    obtain ⟨i, hi⟩ := Option.isSome_iff_exists.mp (h.blockIndex?_isSome hs)
    obtain ⟨b, hb, hsb⟩ := h.blockIndex?_eq_some_iff.mp hi
    obtain ⟨c, hc, htc⟩ := h.blockIndex?_eq_some_iff.mp (he ▸ hi)
    obtain rfl : b = c := Option.some.inj (hb.symm.trans hc)
    exact ⟨b, List.mem_of_getElem? hb, hsb, htc⟩
  · rintro ⟨b, hb, hs, ht⟩
    obtain ⟨i, hi⟩ := List.mem_iff_getElem?.mp hb
    rw [h.blockIndex?_eq_some_iff.mpr ⟨b, hi, hs⟩, h.blockIndex?_eq_some_iff.mpr ⟨b, hi, ht⟩]

end IsPartition

/-! ## One round -/

theorem IsPartition.refine (h : IsPartition states blocks) :
    IsPartition states (m.refine blocks) where
  ne_nil c hc := by
    obtain ⟨b, -, hc⟩ := List.mem_flatMap.mp hc
    exact ne_nil_of_mem_groups hc
  nodup := by
    rw [Automaton.refine, List.flatMap_def, List.flatten_flatten, List.map_map]
    refine List.nodup_flatMap.mpr ⟨fun b hb => nodup_flatten_groups (h.nodup_block hb), ?_⟩
    refine (List.nodup_flatten.mp h.nodup).2.imp fun hd s hs ht => ?_
    exact hd (mem_flatten_groups.mp hs) (mem_flatten_groups.mp ht)
  mem_iff s := by
    rw [← h.mem_iff, Automaton.refine, List.flatMap_def, List.flatten_flatten, List.map_map]
    simp only [List.mem_flatten, List.mem_map]
    constructor
    · rintro ⟨_, ⟨b, hb, rfl⟩, hs⟩
      exact ⟨b, hb, mem_flatten_groups.mp hs⟩
    · rintro ⟨b, hb, hs⟩
      exact ⟨_, ⟨b, hb, rfl⟩, mem_flatten_groups.mpr hs⟩

/-- The states that a round leaves together. -/
theorem sameBlock_refine_iff : SameBlock (m.refine blocks) s t ↔
    SameBlock blocks s t ∧ m.signature blocks s = m.signature blocks t := by
  constructor
  · rintro ⟨c, hc, hs, ht⟩
    obtain ⟨b, hb, hc⟩ := List.mem_flatMap.mp hc
    obtain ⟨u, -, rfl⟩ := mem_groups_iff.mp hc
    obtain ⟨hs, hsu⟩ := List.mem_filter.mp hs
    obtain ⟨ht, htu⟩ := List.mem_filter.mp ht
    exact ⟨⟨b, hb, hs, ht⟩, (of_decide_eq_true hsu).trans (of_decide_eq_true htu).symm⟩
  · rintro ⟨⟨b, hb, hs, ht⟩, he⟩
    refine ⟨_, List.mem_flatMap.mpr ⟨b, hb, mem_groups_iff.mpr ⟨s, hs, rfl⟩⟩, ?_, ?_⟩
    · exact List.mem_filter.mpr ⟨hs, by simp⟩
    · exact List.mem_filter.mpr ⟨ht, by simp [he]⟩

theorem length_le_length_refine (hne : ∀ b ∈ blocks, b ≠ []) :
    blocks.length ≤ (m.refine blocks).length :=
  length_le_length_flatMap fun b hb => length_groups_pos (hne b hb)

/-- A round that makes no more blocks divides none. -/
theorem stable_of_length_refine (hne : ∀ b ∈ blocks, b ≠ [])
    (h : (m.refine blocks).length = blocks.length) : m.Stable blocks := by
  rintro s t ⟨b, hb, hs, ht⟩
  exact eq_of_length_groups_le_one (length_le_one_of_length_flatMap_le
    (fun c hc => length_groups_pos (hne c hc)) (Nat.le_of_eq h) hb) hs ht

/-! ## All rounds -/

/-- What a round keeps, all rounds keep. -/
theorem refineAll_induction {motive : List Block → Prop}
    (hrefine : ∀ blocks, motive blocks → motive (m.refine blocks)) (n : Nat) (h : motive blocks) :
    motive (m.refineAll n blocks) := by
  induction n generalizing blocks with
  | zero => exact h
  | succ n ih =>
    simp only [refineAll]
    split
    · exact h
    · exact ih (hrefine _ h)

/-- The rounds come to an end: each but the last makes more blocks, of which there are at most as many
as states. -/
theorem stable_refineAll (h : IsPartition states blocks) {n : Nat}
    (hn : states.length < n + blocks.length) : m.Stable (m.refineAll n blocks) := by
  induction n generalizing blocks with
  | zero =>
    have := h.length_le
    omega
  | succ n ih =>
    simp only [refineAll]
    split
    · next hlen => exact stable_of_length_refine h.ne_nil hlen
    · next hlen =>
      have hle := length_le_length_refine (m := m) h.ne_nil
      exact ih h.refine (by omega)

/-! ## The blocks at the end -/

/-- The two blocks with which the rounds begin. -/
def acceptanceBlocks (m : Automaton) : List Block :=
  [m.states.filter (· ∈ m.accept), m.states.filter (· ∉ m.accept)].filter fun b => !b.isEmpty

theorem blocks_perm (m : Automaton) :
    m.blocks.Perm (m.refineAll m.states.length m.acceptanceBlocks) := by
  have h := List.filter_append_perm (fun b => decide (m.start ∈ b))
    (m.refineAll m.states.length m.acceptanceBlocks)
  simpa [blocks, acceptanceBlocks] using h

theorem sameBlock_acceptanceBlocks_iff : SameBlock m.acceptanceBlocks s t ↔
    s ∈ m.states ∧ t ∈ m.states ∧ (s ∈ m.accept ↔ t ∈ m.accept) := by
  simp only [SameBlock, acceptanceBlocks, List.mem_filter, List.mem_cons, List.not_mem_nil, or_false]
  constructor
  · rintro ⟨b, ⟨rfl | rfl, -⟩, hs, ht⟩ <;> simp at hs ht <;> simp [hs, ht]
  · rintro ⟨hs, ht, he⟩
    by_cases hacc : s ∈ m.accept
    · exact ⟨_, ⟨Or.inl rfl, by simp; exact ⟨s, hs, hacc⟩⟩, by simp [hs, hacc], by simp [ht, ← he, hacc]⟩
    · exact ⟨_, ⟨Or.inr rfl, by simp; exact ⟨s, hs, hacc⟩⟩, by simp [hs, hacc], by simp [ht, ← he, hacc]⟩

theorem isPartition_acceptanceBlocks (hd : m.states.Nodup) :
    IsPartition m.states m.acceptanceBlocks where
  ne_nil b hb := by simpa using (List.mem_filter.mp hb).2
  nodup := by
    rw [acceptanceBlocks, List.flatten_filter_not_isEmpty]
    simp only [List.flatten_cons, List.flatten_nil, List.append_nil]
    refine List.nodup_append.mpr ⟨hd.filter _, hd.filter _, ?_⟩
    rintro s hs _ ht rfl
    simp at hs ht
    exact ht.2 hs.2
  mem_iff s := by
    rw [acceptanceBlocks, List.flatten_filter_not_isEmpty]
    by_cases h : s ∈ m.accept <;> simp [h]

theorem isPartition_blocks (hd : m.states.Nodup) : IsPartition m.states m.blocks := by
  refine IsPartition.perm ?_ m.blocks_perm.symm
  exact refineAll_induction (fun _ h => h.refine) _ (isPartition_acceptanceBlocks hd)

theorem sameBlock_blocks_iff_refineAll : SameBlock m.blocks s t ↔
    SameBlock (m.refineAll m.states.length m.acceptanceBlocks) s t :=
  sameBlock_congr fun _ => m.blocks_perm.mem_iff

theorem accept_of_sameBlock (h : SameBlock m.blocks s t) : s ∈ m.accept ↔ t ∈ m.accept := by
  refine refineAll_induction
    (motive := fun blocks => ∀ s t, SameBlock blocks s t → (s ∈ m.accept ↔ t ∈ m.accept))
    (fun blocks ih s t h => ih s t (sameBlock_refine_iff.mp h).1) _ (fun s t h => ?_) s t
    (sameBlock_blocks_iff_refineAll.mp h)
  exact (sameBlock_acceptanceBlocks_iff.mp h).2.2

theorem rel_imp {r r' : State → State → Prop} (h : ∀ u v, r u v → r' u v) {x y : Option State}
    (hxy : Option.Rel r x y) : Option.Rel r' x y := by
  cases hxy with
  | none => exact .none
  | some huv => exact .some (h _ _ huv)

namespace WellFormed

theorem stable (hm : m.WellFormed) :
    m.Stable (m.refineAll m.states.length m.acceptanceBlocks) := by
  refine stable_refineAll (isPartition_acceptanceBlocks hm.nodup) ?_
  have hstart : SameBlock m.acceptanceBlocks m.start m.start :=
    sameBlock_acceptanceBlocks_iff.mpr ⟨hm.start_mem, hm.start_mem, Iff.rfl⟩
  obtain ⟨b, hb, -⟩ := hstart
  have := List.length_pos_of_mem hb
  omega

/-- States lead to the same blocks if their transitions lead to states that are together, or are missing
from both. -/
theorem signature_eq_iff (hm : m.WellFormed) (h : IsPartition m.states blocks) :
    m.signature blocks s = m.signature blocks t ↔
      ∀ a ∈ m.alphabet, Option.Rel (SameBlock blocks) (m.target? s a) (m.target? t a) := by
  rw [signature, signature, List.map_inj_left]
  refine forall₂_congr fun a _ => ?_
  cases hs : m.target? s a with
  | none =>
    cases ht : m.target? t a with
    | none => exact iff_of_true rfl .none
    | some v =>
      obtain ⟨i, hi⟩ := Option.isSome_iff_exists.mp (h.blockIndex?_isSome (hm.of_target? ht).2.2)
      simp [hi]
  | some u =>
    have hu := (hm.of_target? hs).2.2
    cases ht : m.target? t a with
    | none =>
      obtain ⟨i, hi⟩ := Option.isSome_iff_exists.mp (h.blockIndex?_isSome hu)
      simp [hi]
    | some v => simpa using h.blockIndex?_eq_iff hu

/-- Transitions from states that are together at the end lead to states that are together. -/
theorem target?_rel (hm : m.WellFormed) (h : SameBlock m.blocks s t) (ha : a ∈ m.alphabet) :
    Option.Rel (SameBlock m.blocks) (m.target? s a) (m.target? t a) := by
  have hpart := (isPartition_blocks hm.nodup).perm m.blocks_perm
  have hsig := hm.stable s t (sameBlock_blocks_iff_refineAll.mp h)
  exact rel_imp (fun _ _ => sameBlock_blocks_iff_refineAll.mpr)
    ((hm.signature_eq_iff hpart).mp hsig a ha)

/-- What no word tells apart leads by each symbol to what no word tells apart. -/
theorem target?_rel_of_indistinct (hm : m.WellFormed) (h : m.Indistinct s t) (ha : a ∈ m.alphabet) :
    Option.Rel (fun u v => u ∈ m.states ∧ v ∈ m.states ∧ m.Indistinct u v)
      (m.target? s a) (m.target? t a) := by
  have hword : ∀ w, m.Spells w → (m.target? s a).bind (m.outcome · w) =
      (m.target? t a).bind (m.outcome · w) := fun w hw => by
    rw [← outcome_cons, ← outcome_cons]
    exact h (a :: w) (spells_cons_iff.mpr ⟨ha, hw⟩)
  have hnil := hword [] fun _ h => nomatch h
  cases hs : m.target? s a with
  | none =>
    cases ht : m.target? t a with
    | none => exact .none
    | some v => simp [hs, ht, outcome, run?] at hnil
  | some u =>
    cases ht : m.target? t a with
    | none => simp [hs, ht, outcome, run?] at hnil
    | some v =>
      refine .some ⟨(hm.of_target? hs).2.2, (hm.of_target? ht).2.2, fun w hw => ?_⟩
      simpa [hs, ht] using hword w hw

/-- A round keeps together what no word tells apart. -/
theorem sameBlock_refine_of_indistinct (hm : m.WellFormed) (h : IsPartition m.states blocks)
    (hblocks : ∀ s ∈ m.states, ∀ t ∈ m.states, m.Indistinct s t → SameBlock blocks s t)
    (hs : s ∈ m.states) (ht : t ∈ m.states) (hst : m.Indistinct s t) :
    SameBlock (m.refine blocks) s t := by
  refine sameBlock_refine_iff.mpr ⟨hblocks s hs t ht hst, (hm.signature_eq_iff h).mpr fun a ha => ?_⟩
  exact rel_imp (fun u v huv => hblocks u huv.1 v huv.2.1 huv.2.2)
    (hm.target?_rel_of_indistinct hst ha)

theorem sameBlock_of_indistinct (hm : m.WellFormed) (hs : s ∈ m.states) (ht : t ∈ m.states)
    (h : m.Indistinct s t) : SameBlock m.blocks s t := by
  refine sameBlock_blocks_iff_refineAll.mpr ?_
  refine (refineAll_induction (motive := fun blocks => IsPartition m.states blocks ∧
    ∀ s ∈ m.states, ∀ t ∈ m.states, m.Indistinct s t → SameBlock blocks s t) (fun blocks ih => ?_) _
    ⟨isPartition_acceptanceBlocks hm.nodup, fun s hs t ht h => ?_⟩).2 s hs t ht h
  · exact ⟨ih.1.refine, fun s hs t ht h => hm.sameBlock_refine_of_indistinct ih.1 ih.2 hs ht h⟩
  · -- the empty word tells an accepting state from another
    have hnil := h [] fun _ h => nomatch h
    exact sameBlock_acceptanceBlocks_iff.mpr ⟨hs, ht, by simpa [outcome, run?] using hnil⟩

theorem indistinct_of_sameBlock (hm : m.WellFormed) (h : SameBlock m.blocks s t) :
    m.Indistinct s t := by
  intro w hw
  induction w generalizing s t with
  | nil => simpa [outcome, run?] using accept_of_sameBlock h
  | cons a w ih =>
    obtain ⟨ha, hw⟩ := spells_cons_iff.mp hw
    rw [outcome_cons, outcome_cons]
    have hrel := hm.target?_rel h ha
    generalize m.target? s a = x, m.target? t a = y at hrel
    cases hrel with
    | none => rfl
    | some huv => exact ih huv hw

/-- States are together at the end exactly if no word tells them apart. -/
theorem sameBlock_blocks_iff (hm : m.WellFormed) (hs : s ∈ m.states) (ht : t ∈ m.states) :
    SameBlock m.blocks s t ↔ m.Indistinct s t :=
  ⟨hm.indistinct_of_sameBlock, hm.sameBlock_of_indistinct hs ht⟩

end WellFormed

end FormalLanguages.Automaton
