import FormalLanguages.Proofs.Automaton.Partition
/-!
# The automaton of the blocks

Each block becomes a state, which has the transitions of the first state of the block. As states that
are together lead to states that are together, any other state of the block would do as well. This
takes that no two blocks have the same name.

Results:
* `WellFormed.merged_eq`: a well-formed automaton is merged without an error.
* `WellFormed.run?_quotient`: the run of the merged automaton goes through the names of the blocks.
* `WellFormed.accepts_quotient_iff`: the merged automaton accepts the same words.
-/
namespace FormalLanguages.Automaton

/-- The block that holds a state. -/
def blockOf (m : Automaton) (s : State) : Block := (m.blocks.find? (s ∈ ·)).getD []

/-- The name of the block that holds a state. -/
def mergedName (m : Automaton) (s : State) : State := (m.blockOf s).name

/-- The transitions of the first state of a block. -/
def blockMoves (m : Automaton) : Block → List ((State × Symbol) × NameSet)
  | [] => []
  | s :: b => (m.alphabet.filterMap fun a => (m.target? s a).map fun t => (a, t)).map fun p =>
    ((Block.name (s :: b), p.1), .singleton (m.mergedName p.2))

/-- The automaton of the blocks. -/
def quotient (m : Automaton) : Automaton where
  states := m.blocks.map Block.name
  alphabet := m.alphabet
  start := m.mergedName m.start
  accept := .ofList (m.accept.toList.map m.mergedName)
  transitions := .ofList (m.blocks.map m.blockMoves).flatten

/-- No two blocks have the same name. -/
def DistinctNames (m : Automaton) : Prop := (m.blocks.map Block.name).Nodup

variable {m : Automaton} {s t : State} {a : Symbol} {w : List Symbol} {b : Block}

theorem mapM_eq_ok {ε α β : Type} {f : α → Except ε β} {g : α → β} {xs : List α}
    (h : ∀ x ∈ xs, f x = .ok (g x)) : xs.mapM f = .ok (xs.map g) := by
  induction xs with
  | nil => rfl
  | cons x xs ih =>
    obtain ⟨hx, hxs⟩ := List.forall_mem_cons.mp h
    rw [List.mapM_cons, hx, ih hxs]
    rfl

namespace WellFormed

/-! ## Blocks and their names -/

theorem isPartition (hm : m.WellFormed) : IsPartition m.states m.blocks := isPartition_blocks hm.nodup

theorem find?_blocks (hm : m.WellFormed) (hs : s ∈ m.states) :
    m.blocks.find? (s ∈ ·) = some (m.blockOf s) := by
  obtain ⟨b, hb, hsb⟩ := hm.isPartition.exists_block hs
  obtain ⟨c, hc⟩ := Option.isSome_iff_exists.mp
    (List.find?_isSome.mpr ⟨b, hb, decide_eq_true hsb⟩ : (m.blocks.find? (s ∈ ·)).isSome = true)
  rw [blockOf, hc]
  rfl

theorem blockOf_mem (hm : m.WellFormed) (hs : s ∈ m.states) :
    m.blockOf s ∈ m.blocks ∧ s ∈ m.blockOf s := by
  have h := hm.find?_blocks hs
  exact ⟨List.mem_of_find?_eq_some h, by simpa using List.find?_some h⟩

theorem blockOf_eq (hm : m.WellFormed) (hb : b ∈ m.blocks) (hs : s ∈ b) : m.blockOf s = b :=
  have h := hm.blockOf_mem (hm.isPartition.mem_states hb hs)
  hm.isPartition.eq_of_mem h.1 hb h.2 hs

theorem blockOf_eq_iff (hm : m.WellFormed) (hs : s ∈ m.states) (ht : t ∈ m.states) :
    m.blockOf s = m.blockOf t ↔ SameBlock m.blocks s t := by
  obtain ⟨hbs, hs⟩ := hm.blockOf_mem hs
  obtain ⟨-, ht⟩ := hm.blockOf_mem ht
  constructor
  · exact fun h => ⟨m.blockOf s, hbs, hs, h ▸ ht⟩
  · rintro ⟨b, hb, hs, ht⟩
    rw [hm.blockOf_eq hb hs, hm.blockOf_eq hb ht]

theorem blockName_eq (hm : m.WellFormed) (hs : s ∈ m.states) :
    blockName m.blocks s = .ok (m.mergedName s) := by
  rw [blockName, hm.find?_blocks hs]
  rfl

theorem mergedName_eq_iff (hm : m.WellFormed) (hn : m.DistinctNames) (hs : s ∈ m.states)
    (ht : t ∈ m.states) : m.mergedName s = m.mergedName t ↔ SameBlock m.blocks s t := by
  rw [← hm.blockOf_eq_iff hs ht]
  refine ⟨fun h => ?_, fun h => congrArg Block.name h⟩
  exact List.inj_on_of_nodup_map hn (hm.blockOf_mem hs).1 (hm.blockOf_mem ht).1 h

/-! ## The merged automaton -/

theorem blockTransitions_eq (hm : m.WellFormed) (b : Block) :
    m.blockTransitions m.blocks b = .ok (m.blockMoves b) := by
  cases b with
  | nil => rfl
  | cons s b =>
    refine mapM_eq_ok fun p hp => ?_
    obtain ⟨a, -, h⟩ := List.mem_filterMap.mp hp
    obtain ⟨t, ht, rfl⟩ := Option.map_eq_some_iff.mp h
    simp only [hm.blockName_eq (hm.of_target? ht).2.2]
    rfl

/-- A well-formed automaton is merged without an error. -/
theorem merged_eq (hm : m.WellFormed) : m.merged m.blocks = .ok m.quotient := by
  have haccept : m.accept.toList.mapM (blockName m.blocks) = .ok (m.accept.toList.map m.mergedName) :=
    mapM_eq_ok fun s hs => hm.blockName_eq (hm.accept_mem s hs)
  have hmoves : m.blocks.mapM (m.blockTransitions m.blocks) = .ok (m.blocks.map m.blockMoves) :=
    mapM_eq_ok fun b _ => hm.blockTransitions_eq b
  rw [merged, hm.blockName_eq hm.start_mem, haccept, hmoves]
  rfl

/-- The transitions of the merged automaton are those of any states of the blocks. -/
theorem mem_blockMoves_iff (hm : m.WellFormed) {e : (State × Symbol) × NameSet} :
    e ∈ (m.blocks.map m.blockMoves).flatten ↔ ∃ s a t, m.target? s a = some t ∧
      ((m.mergedName s, a), .singleton (m.mergedName t)) = e := by
  rw [← List.flatMap_def, List.mem_flatMap]
  constructor
  · rintro ⟨_ | ⟨r, b⟩, hb, he⟩
    · cases he
    · obtain ⟨⟨a, t⟩, hp, rfl⟩ := List.mem_map.mp he
      obtain ⟨a, -, h⟩ := List.mem_filterMap.mp hp
      obtain ⟨t, ht, h⟩ := Option.map_eq_some_iff.mp h
      cases h
      exact ⟨r, a, t, ht, by rw [mergedName, hm.blockOf_eq hb (by simp)]⟩
  · rintro ⟨s, a, t, ht, rfl⟩
    obtain ⟨hs, ha, htm⟩ := hm.of_target? ht
    obtain ⟨hb, hsb⟩ := hm.blockOf_mem hs
    refine ⟨m.blockOf s, hb, ?_⟩
    rw [mergedName]
    generalize m.blockOf s = b at hb hsb
    cases b with
    | nil => cases hsb
    | cons r b =>
      -- the first state of the block leads to the same block as `s`
      have hrel := hm.target?_rel ⟨r :: b, hb, hsb, List.mem_cons_self⟩ ha
      rw [ht] at hrel
      obtain ⟨u, hu, htu⟩ : ∃ u, m.target? r a = some u ∧ SameBlock m.blocks t u := by
        generalize m.target? r a = y at hrel
        cases hrel with
        | some h => exact ⟨_, rfl, h⟩
      have hname : m.mergedName u = m.mergedName t :=
        congrArg Block.name ((hm.blockOf_eq_iff (hm.of_target? hu).2.2 htm).mpr htu.symm)
      refine List.mem_map.mpr ⟨(a, u), List.mem_filterMap.mpr ⟨a, ha, by simp [hu]⟩, ?_⟩
      rw [hname]

theorem get?_quotient_iff (hm : m.WellFormed) (hn : m.DistinctNames) {k : State × Symbol}
    {T : NameSet} : m.quotient.transitions.get? k = some T ↔ ∃ s a t, m.target? s a = some t ∧
      ((m.mergedName s, a), .singleton (m.mergedName t)) = (k, T) := by
  rw [quotient, OrderedMap.get?_ofList_iff, hm.mem_blockMoves_iff]
  intro k V W hV hW
  obtain ⟨s, a, t, ht, he⟩ := hm.mem_blockMoves_iff.mp hV
  obtain ⟨s', a', t', ht', he'⟩ := hm.mem_blockMoves_iff.mp hW
  obtain ⟨rfl, rfl⟩ := Prod.mk.inj he
  obtain ⟨hk, rfl⟩ := Prod.mk.inj he'
  obtain ⟨hname, rfl⟩ := Prod.mk.inj hk
  obtain ⟨hs, ha, htm⟩ := hm.of_target? ht
  obtain ⟨hs', -, htm'⟩ := hm.of_target? ht'
  have hrel := hm.target?_rel ((hm.mergedName_eq_iff hn hs' hs).mp hname) ha
  rw [ht, ht', Option.rel_some_some] at hrel
  rw [(hm.mergedName_eq_iff hn htm' htm).mpr hrel]

/-- A transition leads from the name of a block to the name of the block where its states lead. -/
theorem target?_quotient (hm : m.WellFormed) (hn : m.DistinctNames) (hs : s ∈ m.states)
    (a : Symbol) : m.quotient.target? (m.mergedName s) a = (m.target? s a).map m.mergedName := by
  rw [target?, targets, OrderedMap.getD]
  cases ht : m.target? s a with
  | some t => rw [(hm.get?_quotient_iff hn).mpr ⟨s, a, t, ht, rfl⟩]; rfl
  | none =>
    have hnone : m.quotient.transitions.get? (m.mergedName s, a) = none := by
      refine Option.eq_none_iff_forall_ne_some.mpr fun T hT => ?_
      obtain ⟨s', a', t', ht', he⟩ := (hm.get?_quotient_iff hn).mp hT
      obtain ⟨hk, -⟩ := Prod.mk.inj he
      obtain ⟨hname, rfl⟩ := Prod.mk.inj hk
      obtain ⟨hs', ha, -⟩ := hm.of_target? ht'
      have hrel := hm.target?_rel ((hm.mergedName_eq_iff hn hs' hs).mp hname) ha
      rw [ht, ht'] at hrel
      cases hrel
    rw [hnone]
    rfl

/-- The run goes through the names of the blocks. -/
theorem run?_quotient (hm : m.WellFormed) (hn : m.DistinctNames) (hs : s ∈ m.states)
    (w : List Symbol) : m.quotient.run? (m.mergedName s) w = (m.run? s w).map m.mergedName := by
  induction w generalizing s with
  | nil => rfl
  | cons a w ih =>
    rw [run?, run?, hm.target?_quotient hn hs]
    cases ht : m.target? s a with
    | none => rfl
    | some t => exact ih (hm.of_target? ht).2.2

theorem mergedName_mem_accept_iff (hm : m.WellFormed) (hn : m.DistinctNames) (hs : s ∈ m.states) :
    m.mergedName s ∈ m.quotient.accept ↔ s ∈ m.accept := by
  rw [quotient, NameSet.mem_ofList, List.mem_map]
  constructor
  · rintro ⟨t, ht, h⟩
    exact (accept_of_sameBlock ((hm.mergedName_eq_iff hn (hm.accept_mem t ht) hs).mp h)).mp ht
  · exact fun h => ⟨s, h, rfl⟩

/-- The merged automaton is well-formed. -/
theorem quotient (hm : m.WellFormed) (hn : m.DistinctNames) : m.quotient.WellFormed where
  nodup := hn
  start_mem := List.mem_map.mpr ⟨_, (hm.blockOf_mem hm.start_mem).1, rfl⟩
  accept_mem s hs := by
    obtain ⟨t, ht, rfl⟩ := List.mem_map.mp (NameSet.mem_ofList.mp hs)
    exact List.mem_map.mpr ⟨_, (hm.blockOf_mem (hm.accept_mem t ht)).1, rfl⟩
  transition e he := by
    obtain ⟨k, T⟩ := e
    obtain ⟨s, a, t, ht, he⟩ := (hm.get?_quotient_iff hn).mp (OrderedMap.mem_entries_iff.mp he)
    obtain ⟨rfl, rfl⟩ := Prod.mk.inj he
    obtain ⟨hs, ha, htm⟩ := hm.of_target? ht
    have hε : a ≠ epsilon := by
      rintro rfl
      exact not_mem_targets_epsilon hm.isDeterministic
        ((target?_eq_some_iff hm.isDeterministic).mp ht)
    exact ⟨List.mem_map.mpr ⟨_, (hm.blockOf_mem hs).1, rfl⟩, ha, hε, _,
      List.mem_map.mpr ⟨_, (hm.blockOf_mem htm).1, rfl⟩, rfl⟩

/-- The merged automaton accepts the same words. -/
theorem accepts_quotient_iff (hm : m.WellFormed) (hn : m.DistinctNames) :
    m.quotient.Accepts w ↔ m.Accepts w := by
  rw [accepts_iff_runAccepts (hm.quotient hn).isDeterministic,
    accepts_iff_runAccepts hm.isDeterministic]
  have hrun := hm.run?_quotient hn hm.start_mem w
  constructor
  · rintro ⟨_, hacc, h⟩
    obtain ⟨t, ht, rfl⟩ := Option.map_eq_some_iff.mp (hrun.symm.trans h)
    have htm := (hm.run?_mem hm.start_mem ht).1
    exact ⟨t, (hm.mergedName_mem_accept_iff hn htm).mp hacc, ht⟩
  · rintro ⟨t, hacc, ht⟩
    have htm := (hm.run?_mem hm.start_mem ht).1
    exact ⟨_, (hm.mergedName_mem_accept_iff hn htm).mpr hacc, hrun.trans (by rw [ht]; rfl)⟩

end WellFormed

end FormalLanguages.Automaton
