import FormalLanguages.Proofs.Grammar.ForwardHeads
import FormalLanguages.Proofs.Grammar.Report
import Mathlib.Data.Prod.Lex
import Mathlib.Data.Set.Card
/-!
# Elimination of left recursion of nonterminals that vanish

The new nonterminal that is split off from one that vanishes comes to the front of its alternatives, and with them to
the front of others, where it can be hidden. The elimination still comes to an end for a tame grammar: where a
nonterminal leads back to the one in whose alternative it stands, what vanishes after it leads to no left-recursive
nonterminal that vanishes; nor does what vanishes before it, and what this leads to comes earlier in the order.

Nonterminals that lead to each other lie on one layer, and fronts are on no higher layer (`Stratified`). A new
nonterminal lies on the layer of the one from which it is split off, if that one vanishes; if not, it comes to the
front of new ones only, and lies above all. Once nonterminals have been treated, the fronts among them fall: on a layer
they fall from given nonterminals to new ones, and from newer ones to older ones, and those from given ones to given
ones are not hidden, so that they come later in the order.

Results:
* `LevelPlace.of_unfolding`, `LevelPlace.of_split`: where a place on a layer comes from.
* `Stratified.unfold`, `Stratified.split`: what the two rewrites keep.
* `Stratified.not_leads_of_hiddenFront`: among what has been treated, no hidden front leads back.
* `Tame.stratified`, `Tamed.turn`: layers at the start, and a turn that keeps them and lowers what is left to do.
* `eliminateLeftRecursion_of_tame`: for a tame grammar the elimination comes to an end and leaves no left recursion.
-/
namespace FormalLanguages

open FormalLanguages.Alternative (body)

namespace Grammar

open Relation

variable {g h given : Grammar} {A B C D prime s : Symbol} {taken : NameSet} {alternatives : List Alternative}
  {treated before after : List Symbol} {layer : Symbol → ℕ∞} {i n : Nat}

/-! ## The condition -/

/-- A nonterminal is straight if none to which it leads is left recursive and vanishes. -/
def Straight (g : Grammar) (A : Symbol) : Prop :=
  A ∈ g.nonterminals ∧ ∀ C, ReflTransGen g.Front A C → g.Yields [C] [] → ¬ TransGen g.Front C C

/-- A symbol is earlier than a nonterminal if it is straight, and what it leads to comes before that one in the
order, if it vanishes. -/
def Earlier (g : Grammar) (A s : Symbol) : Prop :=
  g.Straight s ∧ ∀ C, ReflTransGen g.Front s C → g.Yields [C] [] → g.position C < g.position A

/-- Where a nonterminal leads back to the one in whose alternative it stands, what vanishes before it is earlier
than that one, and what vanishes after it is straight. -/
structure Tame (g : Grammar) : Prop where
  before : ∀ A before B after, before ++ B :: after ∈ g.alternatives A → g.Yields before [] →
    ReflTransGen g.Front B A → ∀ s ∈ before, g.Earlier A s
  after : ∀ A before B after, before ++ B :: after ∈ g.alternatives A → g.Yields before [] →
    ReflTransGen g.Front B A → g.Yields after [] → ∀ s ∈ after, g.Straight s

theorem mem_nonterminals_of_leads (hA : A ∈ g.nonterminals) (hlead : ReflTransGen g.Front A B) :
    B ∈ g.nonterminals := by
  cases hlead with
  | refl => exact hA
  | tail _ hf => exact hf.1

theorem Straight.of_leads (hA : g.Straight A) (hlead : ReflTransGen g.Front A B) : g.Straight B :=
  ⟨mem_nonterminals_of_leads hA.1 hlead, fun C hC => hA.2 C (hlead.trans hC)⟩

theorem Earlier.of_leads (hs : g.Earlier A s) (hlead : ReflTransGen g.Front s B) : g.Earlier A B :=
  ⟨hs.1.of_leads hlead, fun C hC => hs.2 C (hlead.trans hC)⟩

theorem mem_of_position_lt (hlt : g.position A < g.position B) : A ∈ g.nonterminals :=
  List.idxOf_lt_length_iff.mp (hlt.trans_le List.idxOf_le_length)

/-! ## Places on a layer -/

/-- All symbols of an alternative that vanishes come to the front. -/
theorem front_of_mem_body {δ : Alternative} (hδ : δ ∈ g.alternatives A) (hv : g.Yields δ [])
    (hs : s ∈ body δ) : g.Front A s := by
  obtain ⟨hs, hε⟩ := Alternative.mem_body.mp hs
  obtain ⟨before, after, rfl⟩ := List.append_of_mem hs
  exact ⟨mem_nonterminals_of_yields_nil hε (hv.forall_mem s hs), before, after, hδ,
    (yields_append_nil_iff.mp hv).1⟩

/-- `B` stands in an alternative of `A` behind symbols that vanish, and is on the same layer. -/
structure LevelPlace (g : Grammar) (layer : Symbol → ℕ∞) (A : Symbol) (before : List Symbol) (B : Symbol)
    (after : List Symbol) : Prop where
  mem : B ∈ g.nonterminals
  place : before ++ B :: after ∈ g.alternatives A
  vanishes : g.Yields before []
  level : layer B = layer A

/-- Where fronts are on no higher layer, a place on a layer comes from one there. -/
theorem LevelPlace.of_unfolding (hp : h.LevelPlace layer C before D after) (hu : Unfolding g h A B)
    (hg : g.Canonical) (hfalls : ∀ A B, g.Front A B → layer B ≤ layer A) :
    g.LevelPlace layer C before D after ∨
      C = A ∧ (∃ γ after', g.LevelPlace layer A [] B γ ∧ g.LevelPlace layer B before D after' ∧
        after = after' ++ γ) ∨
      C = A ∧ ∃ δ before', g.LevelPlace layer A (B :: before') D after ∧ δ ∈ g.alternatives B ∧
        g.Yields δ [] ∧ before = body δ ++ before' := by
  obtain ⟨hD, hα, hv, hlevel⟩ := hp
  have hDg : D ∈ g.nonterminals := hu.nonterminals ▸ hD
  rcases hu.place_cases hg hD hα with hα | ⟨rfl, γ, after', hγ, hδ, rfl⟩ | ⟨rfl, δ, before', hγ, hδ, rfl⟩
  · exact Or.inl ⟨hDg, hα, hu.yields_iff.mp hv, hlevel⟩
  · have hv := hu.yields_iff.mp hv
    have hBD := hfalls B D ⟨hDg, before, after', hδ, hv⟩
    have hB : layer B = layer C := le_antisymm (hfalls C B (front_of_head hu.mem hγ)) (hlevel ▸ hBD)
    exact Or.inr (Or.inl ⟨rfl, γ, after', ⟨hu.mem, hγ, .nil, hB⟩, ⟨hDg, hδ, hv, hlevel.trans hB.symm⟩, rfl⟩)
  · have hvδ := (yields_append_nil_iff.mp (hu.yields_iff.mp hv)).1.of_body
    exact Or.inr (Or.inr ⟨rfl, δ, before', ⟨hDg, hγ, hu.yields_behind hδ hv, hlevel⟩, hδ, hvδ, rfl⟩)

/-- Where a new nonterminal is split off and put on layer `k`, a place on a layer comes from one there, or it is in
a tail, or it is that of the new nonterminal at the end. -/
theorem LevelPlace.of_split {k : ℕ∞} (hp : h.LevelPlace (Function.update layer prime k) C before D after)
    (hs : Split g h A prime) (hg : g.Canonical) :
    (C ≠ prime ∧ D ≠ prime ∧ ∃ after', g.LevelPlace layer C before D after' ∧
      (C = A → after = after' ++ [prime]) ∧ (C ≠ A → after = after')) ∨
    (C = prime ∧ D ∈ g.nonterminals ∧ layer D = k ∧
      ∃ after', A :: (before ++ D :: after') ∈ g.alternatives A ∧ g.Yields before []) ∨
    D = prime ∧ after = [] ∧ (C = A ∧ g.Yields [A] [] ∨ C = prime) := by
  obtain ⟨hD, hα, hv, hlevel⟩ := hp
  have hold : D ≠ prime → D ∈ g.nonterminals := ((hs.nonterminals D).mp hD).resolve_left
  rcases hs.place_cases hg hD hα with ⟨hC, hDp, after', hα, hA, helse⟩ | ⟨rfl, hDp, after', hα⟩ |
    ⟨rfl, rfl, ⟨rfl, γ, hγ, rfl, -⟩ | ⟨rfl, -⟩⟩
  · rw [Function.update_of_ne hDp, Function.update_of_ne hC] at hlevel
    have hv := (hs.yields_iff (hs.prime_not_mem_before hα)).mp hv
    exact Or.inl ⟨hC, hDp, after', ⟨hold hDp, hα, hv, hlevel⟩, fun h => (hA h).2, helse⟩
  · rw [Function.update_of_ne hDp, Function.update_self] at hlevel
    have hunused : C ∉ before := fun hmem =>
      hs.prime_unused A _ hα (List.mem_cons_of_mem _ (List.mem_append_left _ hmem))
    exact Or.inr (Or.inl ⟨rfl, hold hDp, hlevel, after', hα, (hs.yields_iff hunused).mp hv⟩)
  · have hv := ((hs.yields_iff (hs.prime_not_mem_body hγ)).mp hv).of_body
    exact Or.inr (Or.inr ⟨rfl, rfl, Or.inl ⟨rfl, .of_alternative hγ hv⟩⟩)
  · exact Or.inr (Or.inr ⟨rfl, rfl, Or.inr rfl⟩)

theorem LevelPlace.of_thinning (hp : h.LevelPlace layer C before D after) (ht : Thinning g h) :
    g.LevelPlace layer C before D after where
  mem := ht.nonterminals ▸ hp.mem
  place := ht.subset C hp.place
  vanishes := ht.yields_iff.mp hp.vanishes
  level := hp.level

/-! ## The invariant -/

/-- How an alternative of a new nonterminal vanishes: it is `ε`, or, as long as the nonterminal waits, what is straight
or older comes before the nonterminal itself. -/
inductive Fades (given : Grammar) (treated : List Symbol) (g : Grammar) (p : Symbol) : Alternative → Prop
  | empty : Fades given treated g p [epsilon]
  | waiting {μ : List Symbol} : p ∉ treated →
    (∀ s ∈ μ, given.Straight s ∨ s ∉ given.nonterminals ∧ g.position s < g.position p) →
    Fades given treated g p (μ ++ [p])

/-- The layers of a grammar on the way, where fronts are on no higher layer.

On a layer, what stands around a given nonterminal is as a tame grammar has it (`hidden`, `tails`), where what is hidden
waits to be treated; straight nonterminals lead where they led (`straight`). In front of a new nonterminal only older
new ones are on its layer, but for itself at the end (`own`). All new ones vanish, and when they have been treated
they do so by `ε` only (`empty`). -/
structure Stratified (given : Grammar) (treated : List Symbol) (layer : Symbol → ℕ∞) (g : Grammar) : Prop where
  canonical : g.Canonical
  low : ∀ A ∈ given.nonterminals, layer A < ⊤
  falls : ∀ A B, g.Front A B → layer B ≤ layer A
  vanishing : ∀ A ∈ given.nonterminals, g.Yields [A] [] → given.Yields [A] []
  hidden : ∀ A ∈ given.nonterminals, ∀ B ∈ given.nonterminals, ∀ before after,
    g.LevelPlace layer A before B after → before ≠ [] → A ∉ treated ∧ ∀ s ∈ before, given.Earlier A s
  tails : ∀ A ∈ given.nonterminals, ∀ B ∈ given.nonterminals, ∀ before after,
    g.LevelPlace layer A before B after → g.Yields after [] → ∀ s ∈ after, s ∈ given.nonterminals → given.Straight s
  straight : ∀ A, given.Straight A →
    (∀ B, g.Front A B → ReflTransGen given.Front A B) ∧ (given.Yields [A] [] → ¬ TransGen g.Front A A)
  own : ∀ p ∉ given.nonterminals, ∀ q before after, g.LevelPlace layer p before q after →
    q ∉ given.nonterminals ∧ (q = p ∧ after = [] ∨ g.position q < g.position p)
  vanishes : ∀ p ∈ g.nonterminals, p ∉ given.nonterminals → g.Yields [p] []
  empty : ∀ p ∉ given.nonterminals, ∀ α ∈ g.alternatives p, g.Yields α [] → Fades given treated g p α

theorem Fades.congr {p : Symbol} {α : Alternative} (hf : Fades given treated g p α)
    (hposition : h.position = g.position) : Fades given treated h p α := by
  cases hf with
  | empty => exact .empty
  | waiting hpt hall => exact .waiting hpt (by rwa [hposition])

namespace Stratified

/-- What has a given nonterminal on its layer is given. -/
theorem mem_given_of_levelPlace (hl : Stratified given treated layer g) (hp : g.LevelPlace layer C before D after)
    (hD : D ∈ given.nonterminals) : C ∈ given.nonterminals := by
  by_contra hC
  exact (hl.own C hC D before after hp).1 hD

/-! ### Substitution -/

section
variable (hl : Stratified given treated layer g) (hu : Unfolding g h A B) (hB : B ∈ treated)
include hl hu hB

theorem hidden_unfold (hC : C ∈ given.nonterminals) (hD : D ∈ given.nonterminals)
    (hp : h.LevelPlace layer C before D after) (hne : before ≠ []) :
    C ∉ treated ∧ ∀ s ∈ before, given.Earlier C s := by
  rcases hp.of_unfolding hu hl.canonical hl.falls with
    hp | ⟨rfl, γ, after', -, hBD, -⟩ | ⟨rfl, δ, before', hCD, hδ, hvδ, rfl⟩
  · exact hl.hidden C hC D hD before after hp hne
  · -- `B` has been treated, so that nothing given is hidden there
    have hBg := hl.mem_given_of_levelPlace hBD hD
    exact absurd hB (hl.hidden B hBg D hD before after' hBD hne).1
  · obtain ⟨hCt, hall⟩ := hl.hidden C hC D hD (B :: before') after hCD (by simp)
    have hearlier := hall B List.mem_cons_self
    refine ⟨hCt, fun s hs => ?_⟩
    rcases List.mem_append.mp hs with hs | hs
    · exact hearlier.of_leads ((hl.straight B hearlier.1).1 s (front_of_mem_body hδ hvδ hs))
    · exact hall s (List.mem_cons_of_mem _ hs)

omit hB in
theorem tails_unfold (hC : C ∈ given.nonterminals) (hD : D ∈ given.nonterminals)
    (hp : h.LevelPlace layer C before D after) (hv : h.Yields after []) :
    ∀ s ∈ after, s ∈ given.nonterminals → given.Straight s := by
  have hv := hu.yields_iff.mp hv
  rcases hp.of_unfolding hu hl.canonical hl.falls with
    hp | ⟨rfl, γ, after', hCB, hBD, rfl⟩ | ⟨rfl, δ, before', hCD, -⟩
  · exact hl.tails C hC D hD before after hp hv
  · obtain ⟨hvafter, hvγ⟩ := yields_append_nil_iff.mp hv
    have hBg := hl.mem_given_of_levelPlace hBD hD
    intro s hs
    rcases List.mem_append.mp hs with hs | hs
    · exact hl.tails B hBg D hD before after' hBD hvafter s hs
    · exact hl.tails C hC B hBg [] γ hCB hvγ s hs
  · exact hl.tails C hC D hD (B :: before') after hCD hv

omit hB in
theorem straight_unfold (hC : given.Straight C) :
    (∀ D, h.Front C D → ReflTransGen given.Front C D) ∧ (given.Yields [C] [] → ¬ TransGen h.Front C C) := by
  obtain ⟨hfront, hcycle⟩ := hl.straight C hC
  refine ⟨fun D hf => ?_, fun hv hcycle' => ?_⟩
  · rcases hu.front_cases hl.canonical hf with hf | ⟨rfl, hCB, hBD⟩
    · exact hfront D hf
    · have hlead := hfront B hCB
      exact hlead.trans ((hl.straight B (hC.of_leads hlead)).1 D hBD)
  · exact hcycle hv (TransGen.closed (fun _ _ => hu.transGen_front hl.canonical) _ _ hcycle')

omit hB in
theorem own_unfold {p q : Symbol} (hp : p ∉ given.nonterminals) (hplace : h.LevelPlace layer p before q after) :
    q ∉ given.nonterminals ∧ (q = p ∧ after = [] ∨ h.position q < h.position p) := by
  rw [position_congr hu.nonterminals]
  rcases hplace.of_unfolding hu hl.canonical hl.falls with
    hplace | ⟨rfl, γ, after', hpB, hBq, -⟩ | ⟨rfl, δ, before', hpq, -⟩
  · exact hl.own p hp q before after hplace
  · -- `B` is older than `p`, and `q` is not newer than `B`
    obtain ⟨hBg, hB⟩ := hl.own p hp B [] γ hpB
    have hlt := hB.resolve_left fun h => hu.ne h.1
    obtain ⟨hq, ⟨rfl, -⟩ | hqB⟩ := hl.own B hBg q before after' hBq
    · exact ⟨hq, Or.inr hlt⟩
    · exact ⟨hq, Or.inr (hqB.trans hlt)⟩
  · exact hl.own p hp q (B :: before') after hpq

theorem empty_unfold {p : Symbol} {α : Alternative} (hp : p ∉ given.nonterminals) (hα : α ∈ h.alternatives p)
    (hv : h.Yields α []) : Fades given treated g p α := by
  have hg := hl.canonical
  have hv := hu.yields_iff.mp hv
  rcases hu.cases hα with ⟨hα, -⟩ | ⟨rfl, γ, δ, hγ, hδ, rfl⟩
  · exact hl.empty p hp α hα hv
  obtain ⟨hvδ, hvγ⟩ := yields_append_nil_iff.mp ((yields_concat_iff hg.epsilon_not_mem).mp hv)
  have hγε := hg.epsilon_not_mem_behind hγ
  have hfades := hl.empty p hp _ hγ (yields_cons_nil_iff.mpr ⟨.of_alternative hδ hvδ, hvγ⟩)
  generalize he : B :: γ = β at hfades
  cases hfades with
  | empty => exact absurd (List.cons.inj he).1 (hg.ne_epsilon hu.mem)
  | @waiting μ hpt hall =>
    cases μ with
    | nil => exact absurd (List.cons.inj he).1 hu.ne
    | cons t μ =>
      rw [List.cons_append] at he
      obtain ⟨rfl, rfl⟩ := List.cons.inj he
      rw [Alternative.concat_of_ne_nil hγε (by simp), ← List.append_assoc]
      refine .waiting hpt fun s hs => ?_
      rcases List.mem_append.mp hs with hs | hs
      · rcases hall B List.mem_cons_self with hstraight | ⟨hBg, -⟩
        · exact Or.inl (hstraight.of_leads ((hl.straight B hstraight).1 s (front_of_mem_body hδ hvδ hs)))
        · -- a new nonterminal that has been treated vanishes by `ε` only
          cases hl.empty B hBg δ hδ hvδ with
          | empty => simp at hs
          | waiting hBt => exact absurd hB hBt
      · exact hall s (List.mem_cons_of_mem _ hs)

/-- A substitution of a nonterminal that has been treated. -/
theorem unfold : Stratified given treated layer h where
  canonical := hu.canonical hl.canonical
  low := hl.low
  vanishing C hC hv := hl.vanishing C hC (hu.yields_iff.mp hv)
  falls C D hf := by
    rcases hu.front_cases hl.canonical hf with hf | ⟨rfl, hCB, hBD⟩
    · exact hl.falls C D hf
    · exact (hl.falls B D hBD).trans (hl.falls C B hCB)
  hidden C hC D hD _ _ hp hne := hl.hidden_unfold hu hB hC hD hp hne
  tails C hC D hD _ _ hp hv := hl.tails_unfold hu hC hD hp hv
  straight C hC := hl.straight_unfold hu hC
  vanishes p hp hpg := hu.yields_iff.mpr (hl.vanishes p (hu.nonterminals ▸ hp) hpg)
  own p hp q _ _ hplace := hl.own_unfold hu hp hplace
  empty p hp α hα hv := (hl.empty_unfold hu hB hp hα hv).congr (position_congr hu.nonterminals)

end

/-! ### New nonterminals -/

section
variable {k : ℕ∞} (hl : Stratified given treated layer g) (hs : Split g h A prime)
  (hgiven : ∀ C ∈ given.nonterminals, C ∈ g.nonterminals)
include hl hs hgiven

omit hl in
theorem ne_prime_of_given (hC : C ∈ given.nonterminals) : C ≠ prime := hs.ne_prime (hgiven C hC)

theorem hidden_split (hC : C ∈ given.nonterminals) (hD : D ∈ given.nonterminals)
    (hp : h.LevelPlace (Function.update layer prime k) C before D after) (hne : before ≠ []) :
    C ∉ treated ∧ ∀ s ∈ before, given.Earlier C s := by
  rcases hp.of_split hs hl.canonical with ⟨-, -, after', hplace, -⟩ | ⟨hCp, -⟩ | ⟨hDp, -⟩
  · exact hl.hidden C hC D hD before after' hplace hne
  · exact absurd hCp (ne_prime_of_given hs hgiven hC)
  · exact absurd hDp (ne_prime_of_given hs hgiven hD)

theorem tails_split (hC : C ∈ given.nonterminals) (hD : D ∈ given.nonterminals)
    (hp : h.LevelPlace (Function.update layer prime k) C before D after) (hv : h.Yields after []) :
    ∀ s ∈ after, s ∈ given.nonterminals → given.Straight s := by
  rcases hp.of_split hs hl.canonical with ⟨-, -, after', hplace, hCA, helse⟩ | ⟨hCp, -⟩ | ⟨hDp, -⟩
  · have hunused : prime ∉ after' := fun hmem =>
      hs.prime_unused C _ hplace.place (List.mem_append_right _ (List.mem_cons_of_mem _ hmem))
    obtain ⟨new, hafter, hnew⟩ : ∃ new, after = after' ++ new ∧ ∀ s ∈ new, s = prime := by
      by_cases hC : C = A
      · exact ⟨[prime], hCA hC, by simp⟩
      · exact ⟨[], by simpa using helse hC, by simp⟩
    rw [hafter] at hv ⊢
    have hv := (hs.yields_iff hunused).mp (yields_append_nil_iff.mp hv).1
    intro s hmem hsg
    rcases List.mem_append.mp hmem with hmem | hmem
    · exact hl.tails C hC D hD before after' hplace hv s hmem hsg
    · exact absurd (hnew s hmem) (ne_prime_of_given hs hgiven hsg)
  · exact absurd hCp (ne_prime_of_given hs hgiven hC)
  · exact absurd hDp (ne_prime_of_given hs hgiven hD)

theorem straight_split (hA : g.Front A A) (hC : given.Straight C) :
    (∀ D, h.Front C D → ReflTransGen given.Front C D) ∧ (given.Yields [C] [] → ¬ TransGen h.Front C C) := by
  have hg := hl.canonical
  have hCp := ne_prime_of_given hs hgiven hC.1
  obtain ⟨hfront, hcycle⟩ := hl.straight C hC
  refine ⟨fun D hf => ?_, fun hv hcycle' => ?_⟩
  · rcases hs.front_cases hg hf with ⟨-, -, hf⟩ | ⟨rfl, -, hv⟩ | ⟨hCp', -⟩
    · exact hfront D hf
    · exact absurd (.single hA) (hcycle (hl.vanishing C hC.1 hv))
    · exact absurd hCp' hCp
  · exact hcycle hv ((hs.transGen_front hg hCp hcycle').resolve_right fun h => hCp h.1).2

end

section
variable {k : ℕ∞} (hl : Stratified given treated layer g) (hs : Split g h A prime)
  (hn : h.nonterminals = g.nonterminals ++ [prime]) (hA : A ∈ given.nonterminals)
include hl hs hn hA

omit hn hA in
theorem falls_split (hvanishes : g.Yields [A] [] → k = layer A) (hsolid : ¬ g.Yields [A] [] → k = ⊤)
    (hf : h.Front C D) : Function.update layer prime k D ≤ Function.update layer prime k C := by
  rcases hs.front_cases hl.canonical hf with
    ⟨hC, hD, hf⟩ | ⟨rfl, rfl, hv⟩ | ⟨rfl, rfl | ⟨hD, hDn, before, after, hα, hv⟩⟩
  · rw [Function.update_of_ne hC, Function.update_of_ne hD]
    exact hl.falls C D hf
  · rw [Function.update_self, Function.update_of_ne (hs.ne_prime hs.mem), hvanishes hv]
  · exact le_rfl
  · rw [Function.update_self, Function.update_of_ne hD]
    by_cases hvA : g.Yields [A] []
    · exact hvanishes hvA ▸ hl.falls A D ⟨hDn, A :: before, after, hα, yields_cons_nil_iff.mpr ⟨hvA, hv⟩⟩
    · exact hsolid hvA ▸ le_top

omit hn hA in
theorem vanishes_split {p : Symbol} (hp : p ∈ h.nonterminals) (hpg : p ∉ given.nonterminals) : h.Yields [p] [] := by
  by_cases hpp : p = prime
  · subst hpp
    exact hs.one_le_meaning_prime rfl
  · have hpn := ((hs.nonterminals p).mp hp).resolve_left hpp
    exact (hs.yields_iff (by simpa using Ne.symm hpp)).mpr (hl.vanishes p hpn hpg)

theorem own_split {p q : Symbol} (hAt : A ∈ treated) (hvanishes : g.Yields [A] [] → k = layer A)
    (hsolid : ¬ g.Yields [A] [] → k = ⊤) (hp : p ∉ given.nonterminals)
    (hplace : h.LevelPlace (Function.update layer prime k) p before q after) :
    q ∉ given.nonterminals ∧ (q = p ∧ after = [] ∨ h.position q < h.position p) := by
  have hpA : p ≠ A := fun he => hp (he ▸ hA)
  rcases hplace.of_split hs hl.canonical with
    ⟨-, -, after', hplace, -, helse⟩ | ⟨rfl, hq, hlevel, after', hα, hv⟩ | ⟨rfl, rfl, hpq⟩
  · rw [helse hpA, position_append hn hplace.mem,
      position_append hn (mem_nonterminals_of_mem_alternatives hplace.place)]
    exact hl.own p hp q before after' hplace
  · refine ⟨fun hqg => ?_, Or.inr (position_lt_new hn hs.prime_not_mem hq)⟩
    by_cases hvA : g.Yields [A] []
    · -- behind `A`, which vanishes, `q` would be hidden in `A`, which has been treated
      have hplace : g.LevelPlace layer A (A :: before) q after' :=
        ⟨hq, hα, yields_cons_nil_iff.mpr ⟨hvA, hv⟩, hlevel.trans (hvanishes hvA)⟩
      exact (hl.hidden A hA q hqg _ _ hplace (by simp)).1 hAt
    · exact (hl.low q hqg).ne (hlevel.trans (hsolid hvA))
  · obtain rfl := (hpq.resolve_left fun h => hpA h.1)
    exact ⟨hp, Or.inl ⟨rfl, rfl⟩⟩

theorem empty_split {p : Symbol} {α : Alternative} (htreated : ∀ C ∈ treated, C ∈ g.nonterminals)
    (hp : p ∉ given.nonterminals) (hα : α ∈ h.alternatives p) (hv : h.Yields α []) :
    Fades given treated h p α := by
  have hg := hl.canonical
  have hpA : p ≠ A := fun he => hp (he ▸ hA)
  by_cases hpp : p = prime
  · subst hpp
    rw [hs.atPrime, List.mem_append, List.mem_map, List.mem_singleton] at hα
    rcases hα with ⟨β, hβ, rfl⟩ | rfl
    · obtain ⟨hne, hmem⟩ := mem_recursiveTails_iff.mp hβ
      have hε := hg.epsilon_not_mem_behind hmem
      have hpε : epsilon ∉ [p] := by simpa using hs.prime_ne_epsilon.symm
      rw [Alternative.concat_of_epsilon_not_mem hε hpε (by simp)] at hv ⊢
      have hvβ := (hs.yields_iff (hs.prime_not_mem_tail hβ)).mp (yields_append_nil_iff.mp hv).1
      refine .waiting (fun hpt => hs.prime_not_mem (htreated p hpt)) fun s hsβ => ?_
      by_cases hsg : s ∈ given.nonterminals
      · exact Or.inl (hl.tails A hA A hA [] β ⟨hs.mem, hmem, .nil, rfl⟩ hvβ s hsβ hsg)
      · have hsn := mem_nonterminals_of_yields_nil (ne_of_mem_of_not_mem hsβ hε) (hvβ.forall_mem s hsβ)
        exact Or.inr ⟨hsg, position_lt_new hn hs.prime_not_mem hsn⟩
    · exact .empty
  · rw [hs.elsewhere p hpA hpp] at hα
    have hpn := mem_nonterminals_of_mem_alternatives hα
    cases hl.empty p hp α hα ((hs.yields_iff (hs.prime_unused p α hα)).mp hv) with
    | empty => exact .empty
    | waiting hpt hall =>
      refine .waiting hpt fun s hsμ => (hall s hsμ).imp_right fun ⟨hsg, hlt⟩ => ⟨hsg, ?_⟩
      rwa [position_append hn (mem_of_position_lt hlt), position_append hn hpn]

/-- A new nonterminal is split off from a given one that has been treated. It goes on the layer of that one if
that one vanishes; otherwise it never comes to the front of a given one, and it goes on top. -/
theorem split (hh : h.Canonical) (hAt : A ∈ treated) (hgiven : ∀ C ∈ given.nonterminals, C ∈ g.nonterminals)
    (htreated : ∀ C ∈ treated, C ∈ g.nonterminals) (htails : recursiveTails A (g.alternatives A) ≠ []) :
    ∃ layer', Stratified given treated layer' h := by
  obtain ⟨k, hvanishes, hsolid⟩ : ∃ k : ℕ∞, (g.Yields [A] [] → k = layer A) ∧ (¬ g.Yields [A] [] → k = ⊤) := by
    by_cases hv : g.Yields [A] []
    · exact ⟨layer A, fun _ => rfl, fun h => absurd hv h⟩
    · exact ⟨⊤, fun h => absurd h hv, fun _ => rfl⟩
  obtain ⟨β, hβ⟩ := List.exists_mem_of_ne_nil _ htails
  have hfront : g.Front A A := front_of_head hs.mem (mem_recursiveTails_iff.mp hβ).2
  refine ⟨Function.update layer prime k, hh, fun C hC => ?_, fun C D hf => hl.falls_split hs hvanishes hsolid hf,
    fun C hC hv => ?_, fun C hC D hD _ _ hp hne => hl.hidden_split hs hgiven hC hD hp hne,
    fun C hC D hD _ _ hp hv => hl.tails_split hs hgiven hC hD hp hv,
    fun C hC => hl.straight_split hs hgiven hfront hC,
    fun p hp q _ _ hplace => hl.own_split hs hn hA hAt hvanishes hsolid hp hplace,
    fun p hp hpg => hl.vanishes_split hs hp hpg,
    fun p hp α hα hv => hl.empty_split hs hn hA htreated hp hα hv⟩
  · rw [Function.update_of_ne (ne_prime_of_given hs hgiven hC)]
    exact hl.low C hC
  · have hunused : prime ∉ [C] := by simpa using (ne_prime_of_given hs hgiven hC).symm
    exact hl.vanishing C hC ((hs.yields_iff hunused).mp hv)

end

/-! ### Treating a nonterminal -/

/-- Alternatives that add nothing are left out. -/
theorem thin (hl : Stratified given treated layer g) (ht : Thinning g h) : Stratified given treated layer h := by
  have hposition := position_congr ht.nonterminals
  exact
    { canonical := ht.canonical hl.canonical
      low := hl.low
      falls := fun C D hf => hl.falls C D (ht.front hf)
      vanishing := fun C hC hv => hl.vanishing C hC (ht.yields_iff.mp hv)
      hidden := fun C hC D hD x y hp => hl.hidden C hC D hD x y (hp.of_thinning ht)
      tails := fun C hC D hD x y hp hv => hl.tails C hC D hD x y (hp.of_thinning ht) (ht.yields_iff.mp hv)
      straight := fun C hC => (hl.straight C hC).imp (fun hlead D hf => hlead D (ht.front hf)) fun hcycle hv hc =>
        hcycle hv (TransGen.mono (fun _ _ => ht.front) _ _ hc)
      own := fun p hp q x y hplace => hposition ▸ hl.own p hp q x y (hplace.of_thinning ht)
      vanishes := fun p hp hpg => ht.yields_iff.mpr (hl.vanishes p (ht.nonterminals ▸ hp) hpg)
      empty := fun p hp α hα hv => (hl.empty p hp α (ht.subset p hα) (ht.yields_iff.mp hv)).congr hposition }

/-- One more nonterminal has been treated. -/
theorem treat (hl : Stratified given treated layer g)
    (hhidden : A ∈ given.nonterminals → ∀ B ∈ given.nonterminals, ∀ before after,
      g.LevelPlace layer A before B after → before = [])
    (hempty : A ∉ given.nonterminals → ∀ α ∈ g.alternatives A, g.Yields α [] → α = [epsilon]) :
    Stratified given (treated ++ [A]) layer g := by
  refine ⟨hl.canonical, hl.low, hl.falls, hl.vanishing, fun C hC D hD x y hp hne => ?_, hl.tails, hl.straight,
    hl.own, hl.vanishes, fun p hp α hα hv => ?_⟩
  · obtain ⟨hCt, hall⟩ := hl.hidden C hC D hD x y hp hne
    have hCA : C ≠ A := fun he => by
      subst he
      exact hne (hhidden hC D hD x y hp)
    exact ⟨by simp [hCt, hCA], hall⟩
  · by_cases hpA : p = A
    · subst hpA
      exact hempty hp α hα hv ▸ .empty
    · cases hl.empty p hp α hα hv with
      | empty => exact .empty
      | waiting hpt hall => exact .waiting (by simp [hpt, hpA]) hall

/-- Only a given nonterminal has alternatives that begin with it and go on. -/
theorem mem_given_of_tail (hl : Stratified given treated layer (g.insert A alternatives)) {β : Alternative}
    (hβ : β ∈ recursiveTails A alternatives) : A ∈ given.nonterminals := by
  by_contra hA
  obtain ⟨hne, hβ⟩ := mem_recursiveTails_iff.mp hβ
  have hplace : LevelPlace (g.insert A alternatives) layer A [] A β :=
    ⟨mem_nonterminals_insert.mpr (Or.inl rfl), by rwa [alternatives_insert, if_pos rfl], .nil, rfl⟩
  rcases hl.own A hA A [] β hplace with ⟨-, ⟨-, hnil⟩ | hlt⟩
  · exact hne hnil
  · exact Nat.lt_irrefl _ hlt

/-! ### Fronts fall -/

/-- By layers; on a layer given nonterminals stand above the new ones, and newer ones above older ones. -/
def standing (given : Grammar) (layer : Symbol → ℕ∞) (g : Grammar) (s : Symbol) : ℕ∞ ×ₗ Nat :=
  toLex (layer s, if s ∈ given.nonterminals then g.nonterminals.length else g.position s)

/-- From a nonterminal that has been treated, fronts do not rise; those that are hidden fall. -/
theorem standing_cases (hl : Stratified given treated layer g) (hC : C ∈ treated) (hD : D ∈ g.nonterminals)
    (hα : before ++ D :: after ∈ g.alternatives C) (hv : g.Yields before []) :
    standing given layer g D < standing given layer g C ∨
      standing given layer g D = standing given layer g C ∧ before = [] := by
  unfold standing
  rw [Prod.Lex.toLex_lt_toLex]
  rcases (hl.falls C D ⟨hD, before, after, hα, hv⟩).lt_or_eq with hlt | heq
  · exact Or.inl (Or.inl hlt)
  have hplace : g.LevelPlace layer C before D after := ⟨hD, hα, hv, heq⟩
  have hCn := mem_nonterminals_of_mem_alternatives hα
  by_cases hDg : D ∈ given.nonterminals
  · have hCg := hl.mem_given_of_levelPlace hplace hDg
    refine Or.inr ⟨by rw [heq, if_pos hDg, if_pos hCg], ?_⟩
    by_contra hne
    exact (hl.hidden C hCg D hDg before after hplace hne).1 hC
  refine Or.inl (Or.inr ⟨heq, ?_⟩)
  by_cases hCg : C ∈ given.nonterminals
  · simp only [if_neg hDg, if_pos hCg]
    exact List.idxOf_lt_length_iff.mpr hD
  · simp only [if_neg hDg, if_neg hCg]
    obtain ⟨-, ⟨rfl, rfl⟩ | hlt⟩ := hl.own C hCg D before after hplace
    · -- at the end of its own alternative it would vanish other than by `ε`
      have hvα : g.Yields (before ++ [D]) [] := yields_append_nil_iff.mpr ⟨hv, hl.vanishes D hD hCg⟩
      have hmem : D ∈ before ++ [D] := by simp
      generalize before ++ [D] = α at hα hvα hmem
      cases hl.empty D hCg α hα hvα with
      | empty => exact absurd (List.mem_singleton.mp hmem) (hl.canonical.ne_epsilon hD)
      | waiting hDt => exact absurd hC hDt
    · exact hlt

theorem standing_le_of_leads (hl : Stratified given treated layer g)
    (hlead : ReflTransGen (g.FrontIn treated) C D) :
    standing given layer g D ≤ standing given layer g C := by
  induction hlead with
  | refl => exact le_rfl
  | tail _ hf ih =>
    obtain ⟨hB, -, hD, x, y, hα, hv⟩ := hf
    rcases hl.standing_cases hB hD hα hv with hlt | ⟨heq, -⟩
    · exact hlt.le.trans ih
    · exact heq.le.trans ih

theorem not_leads_of_hiddenFront (hl : Stratified given treated layer g) (hC : C ∈ treated)
    (hf : g.HiddenFront C D) : ¬ ReflTransGen (g.FrontIn treated) D C := by
  obtain ⟨hD, x, y, hne, hα, hv⟩ := hf
  have hlt := (hl.standing_cases hC hD hα hv).resolve_right fun h => hne h.2
  exact fun hback => (hl.standing_le_of_leads hback).not_gt hlt

end Stratified

/-! ## The start -/

/-- The nonterminals to which a symbol leads. -/
def reach (g : Grammar) (A : Symbol) : Set Symbol := {C | C ∈ g.nonterminals ∧ ReflTransGen g.Front A C}

theorem finite_reach (g : Grammar) (A : Symbol) : (g.reach A).Finite :=
  g.nonterminals.finite_toSet.subset fun _ hC => hC.1

theorem reach_subset (hf : g.Front A B) : g.reach B ⊆ g.reach A := fun _ hC => ⟨hC.1, .head hf hC.2⟩

/-- A front that leads to as many nonterminals leads back. -/
theorem leads_back_of_encard (hf : g.Front A B) (heq : (g.reach B).encard = (g.reach A).encard) :
    ReflTransGen g.Front B A := by
  have hsame := (finite_reach g B).eq_of_subset_of_encard_le (reach_subset hf) heq.ge
  have hA : A ∈ g.reach A := ⟨hf.mem_nonterminals, .refl⟩
  rw [← hsame] at hA
  exact hA.2

/-- A grammar is layered by the number of nonterminals to which each leads. -/
theorem Tame.stratified (ht : g.Tame) (hg : g.Canonical) :
    Stratified g [] (fun A => (g.reach A).encard) g := by
  have hback : ∀ {A B before after}, g.LevelPlace (fun A => (g.reach A).encard) A before B after →
      ReflTransGen g.Front B A := fun ⟨hB, hα, hv, heq⟩ => leads_back_of_encard ⟨hB, _, _, hα, hv⟩ heq
  refine ⟨hg, fun A _ => (finite_reach g A).encard_lt_top, fun A B hf => Set.encard_le_encard (reach_subset hf),
    fun A _ hv => hv, fun A _ B _ x y hp _ => ⟨by simp, ht.before A x B y hp.place hp.vanishes (hback hp)⟩,
    fun A _ B _ x y hp hv s hs _ => ht.after A x B y hp.place hp.vanishes (hback hp) hv s hs,
    fun A hA => ⟨fun B => .single, hA.2 A .refl⟩, fun p hp q x y hplace => ?_, fun p hp hpg => absurd hp hpg,
    fun p hp α hα => ?_⟩
  · exact absurd (mem_nonterminals_of_mem_alternatives hplace.place) hp
  · exact absurd (mem_nonterminals_of_mem_alternatives hα) hp

/-! ## The run -/

/-- Where the run stands. -/
structure Tamed (given g : Grammar) (taken : NameSet) (i : Nat) : Prop where
  workable : Workable g taken
  order : given.nonterminals <+: g.nonterminals
  stratified : ∃ layer, Stratified given (g.nonterminals.take i) layer g
  forward : g.HeadsForward (g.nonterminals.take i)

namespace Tamed

theorem exists_descendsIn (h : Tamed given g taken i) : ∃ rank, g.DescendsIn (g.nonterminals.take i) rank := by
  obtain ⟨layer, hl⟩ := h.stratified
  exact h.forward.exists_descendsIn fun C hC D hf => hl.not_leads_of_hiddenFront hC hf

section
variable (hm : Tamed given g taken i) (hA : g.nonterminals[i]? = some A)
  (hs : g.settle (g.nonterminals.take i) n (g.alternatives A) = .ok alternatives)
  (hheads : ∀ α ∈ alternatives, ∀ s ∈ α.head?, s ∉ g.nonterminals.take i)

include hm hA hs in
theorem settled (hl : Stratified given (g.nonterminals.take i) layer g) :
    Stratified given (g.nonterminals.take i) layer (g.insert A alternatives) :=
  settle_induction_of_unfoldings hm.workable.epsilon_not_mem (List.mem_of_getElem? hA)
    (mem_take_of_getElem? hA) (fun _ hB hu hl => hl.unfold hu hB) hs hl

section
variable (hl : Stratified given (g.nonterminals.take i) layer (g.insert A alternatives))
include hm hA hheads hl

/-- Nothing given is hidden on the layer of a given nonterminal that has settled: what vanishes in front of it
came before it, and has been replaced. -/
theorem eq_nil_of_levelPlace (hAg : A ∈ given.nonterminals) (hB : B ∈ given.nonterminals)
    (hp : LevelPlace (g.insert A alternatives) layer A before B after) : before = [] := by
  by_contra hne
  obtain ⟨C, γ, rfl⟩ := List.exists_cons_of_ne_nil hne
  obtain ⟨-, hall⟩ := hl.hidden A hAg B hB (C :: γ) after hp hne
  obtain ⟨hC, hfirst⟩ := hall C List.mem_cons_self
  have hlt := hfirst C .refl (hl.vanishing C hC.1 (hp.vanishes.forall_mem C List.mem_cons_self))
  have hα := hp.place
  rw [alternatives_insert, if_pos rfl] at hα
  refine hheads _ hα C rfl ((mem_take_iff_position (hm.order.mem hC.1)).mpr ?_)
  rwa [position_eq_idxOf hm.order hC.1, ← position_of_getElem? hA, position_eq_idxOf hm.order hAg]

/-- A new nonterminal that has settled vanishes by `ε`, or by an alternative that is itself alone. -/
theorem eq_epsilon_or_self (hAg : A ∉ given.nonterminals) {α : Alternative} (hα : α ∈ alternatives)
    (hv : Yields (g.insert A alternatives) α []) : α = [epsilon] ∨ α = [A] := by
  have hmem : α ∈ Grammar.alternatives (g.insert A alternatives) A := by rwa [alternatives_insert, if_pos rfl]
  cases hl.empty A hAg α hmem hv with
  | empty => exact Or.inl rfl
  | @waiting μ _ hall =>
    cases μ with
    | nil => exact Or.inr rfl
    | cons s μ =>
      -- what is in front would be older, and has been replaced
      refine absurd ?_ (hheads _ hα s rfl)
      rcases hall s List.mem_cons_self with hsg | ⟨-, hlt⟩
      · exact mem_take_of_mem_originals hm.order hA hAg hsg.1
      · rw [position_congr (nonterminals_insert_of_mem (List.mem_of_getElem? hA) alternatives)] at hlt
        rwa [mem_take_iff_position (mem_of_position_lt hlt), ← position_of_getElem? hA]

end

include hm hA hs hheads

theorem stratified_removeImmediate :
    ∃ layer, Stratified given (g.nonterminals.take i ++ [A]) layer (g.removeImmediate taken A alternatives).1 := by
  have hw := hm.workable
  have hmem := List.mem_of_getElem? hA
  have hothers := hw.otherAlternatives_ne_nil hA hs
  obtain ⟨layer, hl⟩ := hm.stratified
  have hl := hm.settled hA hs hl
  have htreat : A ∈ given.nonterminals → ∀ B ∈ given.nonterminals, ∀ x y,
      LevelPlace (g.insert A alternatives) layer A x B y → x = [] :=
    fun hAg B hB x y => hm.eq_nil_of_levelPlace hA hheads hl hAg hB
  by_cases htails : recursiveTails A alternatives = []
  · rw [removeImmediate_of_no_tails g taken htails hothers]
    have ht := thinning_otherAlternatives hmem htails
    refine ⟨layer, (hl.thin ht).treat (fun hAg B hB x y hp => ?_) fun hAg α hα hv => ?_⟩
    · exact htreat hAg B hB x y (hp.of_thinning ht)
    · rw [alternatives_insert, if_pos rfl] at hα
      obtain ⟨hα, hhead⟩ := mem_otherAlternatives_iff.mp hα
      refine (hm.eq_epsilon_or_self hA hheads hl hAg hα (ht.yields_iff.mp hv)).resolve_right fun he => ?_
      exact hhead (he ▸ rfl)
  · obtain ⟨β, hβ⟩ := List.exists_mem_of_ne_nil _ htails
    have hAg := hl.mem_given_of_tail hβ
    obtain ⟨prime, hsplit, hlast⟩ := hw.exists_split hA hs htails
    have hn := nonterminals_insert_of_mem hmem alternatives
    refine (hl.treat htreat fun h => absurd hAg h).split hsplit hlast hAg
      (hw.removeImmediate hA hs).1.tidy.canonical (by simp) (fun C hC => ?_) (fun C hC => ?_) ?_
    · exact hn ▸ hm.order.mem hC
    · rw [hn]
      rcases List.mem_append.mp hC with hC | hC
      · exact List.mem_of_mem_take hC
      · exact List.mem_singleton.mp hC ▸ hmem
    · rwa [alternatives_insert, if_pos rfl]

/-- A turn brings the run one place further. -/
theorem removeImmediate :
    Tamed given (g.removeImmediate taken A alternatives).1 (g.removeImmediate taken A alternatives).2 (i + 1) ∧
      work (.ofList given.nonterminals) (g.removeImmediate taken A alternatives).1 (i + 1) <
        work (.ofList given.nonterminals) g i := by
  have hw := hm.workable
  obtain ⟨hgrown, -⟩ := hw.removeImmediate_keeps hA hs
  refine ⟨⟨(hw.removeImmediate hA hs).1, hm.order.trans hgrown, ?_,
    hm.forward.removeImmediate hw hA hs hheads⟩, ?_⟩
  · rw [hw.take_removeImmediate hA hs]
    exact hm.stratified_removeImmediate hA hs hheads
  · refine hw.work_removeImmediate_lt hA hs (fun C hC => hm.order.mem hC) fun htails => ?_
    obtain ⟨β, hβ⟩ := List.exists_mem_of_ne_nil _ htails
    obtain ⟨layer, hl⟩ := hm.stratified
    exact (hm.settled hA hs hl).mem_given_of_tail hβ

end

/-- A turn settles, and brings the run one place further. -/
theorem turn (h : Tamed given g taken i) (hA : g.nonterminals[i]? = some A) :
    ∃ n alternatives, g.settle (g.nonterminals.take i) n (g.alternatives A) = .ok alternatives ∧
      [] ∉ alternatives ∧
      Tamed given (g.removeImmediate taken A alternatives).1 (g.removeImmediate taken A alternatives).2 (i + 1) ∧
      work (.ofList given.nonterminals) (g.removeImmediate taken A alternatives).1 (i + 1) <
        work (.ofList given.nonterminals) g i := by
  obtain ⟨rank, hd⟩ := h.exists_descendsIn
  obtain ⟨n, alternatives, hs, hne, hheads⟩ := h.workable.exists_settle hd A
  exact ⟨n, alternatives, hs, hne, h.removeImmediate hA hs hheads⟩

/-- Nothing is left recursive when all have been treated. -/
theorem leftRecursive_eq_nil (h : Tamed given g taken i) (hi : g.nonterminals[i]? = none) :
    g.leftRecursive = [] := by
  obtain ⟨rank, hd⟩ := h.exists_descendsIn
  exact hd.leftRecursive_eq_nil h.workable.tidy.canonical hi

end Tamed

/-! ## The result -/

theorem tamed_symbols (hg : g.Canonical) (hp : ∀ A ∈ g.nonterminals, ∃ w, w ∈ g.language A) (ht : g.Tame) :
    Tamed g g g.symbols 0 where
  workable := workable_symbols hg hp
  order := List.prefix_refl _
  stratified := ⟨_, ht.stratified hg⟩
  forward := fun A hA => by simp at hA

/-- For a tame grammar where every nonterminal derives some word, the elimination comes to an end, and nothing in
its result is left recursive. -/
theorem eliminateLeftRecursion_of_tame (hg : g.Canonical) (hp : ∀ A ∈ g.nonterminals, ∃ w, w ∈ g.language A)
    (ht : g.Tame) :
    ∃ r, (∃ n, ∀ rounds ≥ n, g.eliminateLeftRecursion rounds = .ok r) ∧ r.leftRecursive = [] := by
  obtain ⟨r, hr, taken, j, hj, hdone⟩ := exists_eliminateLeftRecursion_of_measure (S := Tamed g)
    (work (.ofList g.nonterminals)) (fun h hA => h.turn hA) (tamed_symbols hg hp ht)
  exact ⟨r, hr, hdone.leftRecursive_eq_nil hj⟩

/-- A left-recursive nonterminal that vanishes, behind one that comes before it and in front of one that vanishes. -/
def trailing : Grammar := .ofList
  [("C", [["ε"], ["c"]]), ("L", [["L", "C"], ["C", "L", "x"], ["(", "L", ")"], ["ε"]])]

theorem trailing_eliminates :
    trailing.Canonical ∧ (∀ A ∈ trailing.nonterminals, ∃ w, w ∈ trailing.language A) ∧ trailing.Tame ∧
    ∃ r, (∃ n, ∀ rounds ≥ n, trailing.eliminateLeftRecursion rounds = .ok r) ∧ r.leftRecursive = [] := by
  have hg : trailing.Canonical := by decide
  have hproductive : ∀ A ∈ trailing.nonterminals, A ∈ trailing.productive [] := by decide +kernel
  have hp : ∀ A ∈ trailing.nonterminals, ∃ w, w ∈ trailing.language A := fun A hA =>
    exists_mem_language hg (hproductive A hA)
  have hC : ∀ D, ¬ trailing.Front "C" D := fun D hf => by
    have hnone : ∀ D ∈ trailing.nonterminals, D ∉ trailing.fronts trailing.erasable "C" := by decide +kernel
    exact hnone D hf.1 ((mem_fronts_iff_front hg).mpr hf)
  have hleads : ∀ D, ReflTransGen trailing.Front "C" D → D = "C" := fun D hlead => by
    rcases ReflTransGen.cases_head hlead with he | ⟨E, hf, -⟩
    · exact he.symm
    · exact absurd hf (hC E)
  have hstraight : trailing.Straight "C" := ⟨by decide, fun D hD _ hcycle => by
    obtain ⟨E, hf, -⟩ := TransGen.head'_iff.mp (hleads D hD ▸ hcycle)
    exact hC E hf⟩
  have hvanish : ∀ s, trailing.Yields [s] [] → s ∉ ["(", ")", "x"] := fun s hv hs => by
    have hterminal : ∀ s ∈ ["(", ")", "x"], s ≠ epsilon ∧ s ∉ trailing.nonterminals := by decide
    exact (hterminal s hs).2 (mem_nonterminals_of_yields_nil (hterminal s hs).1 hv)
  have hnonterminals : ∀ {A}, A ∈ trailing.nonterminals → A = "C" ∨ A = "L" := fun {A} hA => by
    have hA : A ∈ ["C", "L"] := hA
    simpa using hA
  have hback : ∀ B, ReflTransGen trailing.Front B "L" → B = "L" := fun B hlead => by
    rcases ReflTransGen.cases_head hlead with he | ⟨E, hf, -⟩
    · exact he
    · refine (hnonterminals hf.mem_nonterminals).resolve_left fun he => ?_
      exact absurd (hleads "L" (he ▸ hlead)) (by decide)
  -- what stands around `L` in its alternatives
  have hplaces : ∀ A before B after, before ++ B :: after ∈ trailing.alternatives A →
      ReflTransGen trailing.Front B A → (∀ s ∈ before, s = "C" ∧ A = "L" ∨ s ∈ ["(", ")", "x"]) ∧
        ∀ s ∈ after, s = "C" ∨ s ∈ ["(", ")", "x"] := by
    intro A before B after hα hlead
    have hall : ∀ A ∈ trailing.nonterminals, ∀ α ∈ trailing.alternatives A, ∀ k < α.length,
        A = "C" ∨ α[k]? = some "L" → (∀ s ∈ α.take k, s = "C" ∧ A = "L" ∨ s ∈ ["(", ")", "x"]) ∧
          ∀ s ∈ α.drop (k + 1), s = "C" ∨ s ∈ ["(", ")", "x"] := by decide
    have hA := mem_nonterminals_of_mem_alternatives hα
    have hhere : A = "C" ∨ (before ++ B :: after)[before.length]? = some "L" :=
      (hnonterminals hA).imp_right fun h => by simp [hback B (h ▸ hlead)]
    simpa using hall A hA _ hα before.length (by simp) hhere
  have ht : trailing.Tame := by
    refine ⟨fun A before B after hα hv hlead s hs => ?_, fun A before B after hα _ hlead hv s hs => ?_⟩
    · obtain ⟨rfl, rfl⟩ := ((hplaces A before B after hα hlead).1 s hs).resolve_right
        (hvanish s (hv.forall_mem s hs))
      exact ⟨hstraight, fun D hD _ => by rw [hleads D hD]; decide⟩
    · obtain rfl := ((hplaces A before B after hα hlead).2 s hs).resolve_right (hvanish s (hv.forall_mem s hs))
      exact hstraight
  exact ⟨hg, hp, ht, eliminateLeftRecursion_of_tame hg hp ht⟩

end Grammar

end FormalLanguages
