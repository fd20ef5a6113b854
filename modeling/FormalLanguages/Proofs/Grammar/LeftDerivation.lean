import FormalLanguages.Proofs.Grammar.Fronts
/-!
# Left recursion as a derivation

A nonterminal is in front in a sequence if it stands there behind symbols that vanish; so the fronts of `A` are
what is in front in its alternatives. A derivation step brings nothing to the front of a sequence but fronts of what
was there before. So a derivation that ends with a nonterminal at the beginning is a path of fronts, and the other
way round.

Results:
* `InFront.of_derives`: what is in front in a derived sequence comes along fronts from what was in front before.
* `transGen_front_iff_derives`: a path of fronts leads from `A` to `B` exactly if `A` derives a sequence that begins
  with `B`.
* `leftRecursive_lists_left_derivations`: the left-recursive nonterminals are those that derive a sequence that begins
  with themselves, in the order of their declaration.
-/
namespace FormalLanguages.Grammar

open Relation
open FormalLanguages.Alternative (body)

variable {g : Grammar} {A B : Symbol} {σ τ : List Symbol}

/-! ## What is in front -/

/-- The nonterminal stands in the sequence behind symbols that vanish. -/
def InFront (g : Grammar) (σ : List Symbol) (B : Symbol) : Prop :=
  B ∈ g.nonterminals ∧ ∃ before after, σ = before ++ B :: after ∧ g.Yields before []

theorem InFront.head (hB : B ∈ g.nonterminals) (σ : List Symbol) : g.InFront (B :: σ) B :=
  ⟨hB, [], σ, rfl, .nil⟩

theorem not_inFront_nil : ¬ g.InFront [] B := by
  rintro ⟨-, before, after, he, -⟩
  simp at he

theorem InFront.append (h : g.InFront σ B) (τ : List Symbol) : g.InFront (σ ++ τ) B := by
  obtain ⟨hB, before, after, rfl, hv⟩ := h
  exact ⟨hB, before, after ++ τ, by simp, hv⟩

theorem InFront.append_of_vanish (hv : g.Yields σ []) (h : g.InFront τ B) : g.InFront (σ ++ τ) B := by
  obtain ⟨hB, before, after, rfl, hv'⟩ := h
  exact ⟨hB, σ ++ before, after, by simp, hv.append hv'⟩

/-- What is in front in two sequences one after the other is so in the first, or in the second if the first vanishes. -/
theorem InFront.of_append (h : g.InFront (σ ++ τ) B) : g.InFront σ B ∨ g.Yields σ [] ∧ g.InFront τ B := by
  obtain ⟨hB, before, after, he, hv⟩ := h
  rcases place_of_append he with ⟨rest, rfl, rfl⟩ | ⟨front, rfl, rfl⟩
  · exact Or.inl ⟨hB, before, rest, rfl, hv⟩
  · obtain ⟨hσ, hfront⟩ := yields_append_nil_iff.mp hv
    exact Or.inr ⟨hσ, hB, front, after, rfl, hfront⟩

/-- A nonterminal in front comes to the beginning when the symbols before it have vanished. -/
theorem InFront.exists_derives (hg : g.Canonical) (hε : epsilon ∉ σ) (h : g.InFront σ B) :
    ∃ β, g.Derives σ (B :: β) := by
  obtain ⟨-, before, after, rfl, hv⟩ := h
  have hbefore : epsilon ∉ before := fun h => hε (List.mem_append_left _ h)
  have hvanish := ((derives_iff_yields hg.epsilon_not_mem hbefore).mpr hv).2
  exact ⟨after, hvanish.append (.refl (B :: after))⟩

/-- The fronts of a nonterminal are in front in what its alternatives write down. -/
theorem front_iff_inFront (hg : g.Canonical) :
    g.Front A B ↔ ∃ α ∈ g.alternatives A, g.InFront (body α) B := by
  constructor
  · rintro ⟨hB, before, after, hα, hv⟩
    have hε : epsilon ∉ before ++ B :: after := by
      rcases hg.cases hα with he | ⟨-, hε⟩
      · have hmem : B ∈ [epsilon] := he ▸ (by simp)
        exact absurd (List.mem_singleton.mp hmem) (hg.ne_epsilon hB)
      · exact hε
    exact ⟨_, hα, hB, before, after, Alternative.body_eq_self hε, hv⟩
  · rintro ⟨α, hα, h⟩
    rcases hg.cases hα with rfl | ⟨-, hε⟩
    · exact absurd h not_inFront_nil
    · rw [Alternative.body_eq_self hε] at h
      obtain ⟨hB, before, after, rfl, hv⟩ := h
      exact ⟨hB, before, after, hα, hv⟩

/-! ## Along a derivation -/

theorem step_singleton_iff : g.Step [A] σ ↔ ∃ α ∈ g.alternatives A, body α = σ := by
  constructor
  · intro h
    generalize he : [A] = τ at h
    cases h with
    | @replace B α before after hα =>
      rcases List.append_eq_singleton_iff.mp he.symm with ⟨rfl, hB⟩ | ⟨-, hB⟩
      · obtain ⟨rfl, rfl⟩ := List.cons.inj hB
        exact ⟨α, hα, by simp⟩
      · cases hB
  · rintro ⟨α, hα, rfl⟩
    simpa using Step.replace [] [] hα

/-- What is in front after a step was in front before it, or it is a front of what was. -/
theorem InFront.of_step (hg : g.Canonical) (hs : g.Step σ τ) (h : g.InFront τ B) :
    ∃ C, g.InFront σ C ∧ ReflTransGen g.Front C B := by
  cases hs with
  | @replace A α before after hα =>
    have hA := mem_nonterminals_of_mem_alternatives hα
    rcases h.of_append with h | ⟨hv, h⟩
    · exact ⟨B, h.append _, .refl⟩
    rcases h.of_append with h | ⟨hvα, h⟩
    · exact ⟨A, (InFront.head hA after).append_of_vanish hv,
        .single ((front_iff_inFront hg).mpr ⟨α, hα, h⟩)⟩
    · have hvA : g.Yields [A] [] := .of_alternative hα hvα.of_body
      exact ⟨B, (h.append_of_vanish hvA).append_of_vanish hv, .refl⟩

/-- What is in front in a derived sequence comes along fronts from what was in front before. -/
theorem InFront.of_derives (hg : g.Canonical) (hd : g.Derives σ τ) (h : g.InFront τ B) :
    ∃ C, g.InFront σ C ∧ ReflTransGen g.Front C B := by
  induction hd using ReflTransGen.head_induction_on with
  | refl => exact ⟨B, h, .refl⟩
  | head hs _ ih =>
    obtain ⟨C, hC, hCB⟩ := ih
    obtain ⟨D, hD, hDC⟩ := hC.of_step hg hs
    exact ⟨D, hD, hDC.trans hCB⟩

/-- A nonterminal derives a sequence with its front at the beginning. -/
theorem Front.exists_derives (hg : g.Canonical) (h : g.Front A B) :
    ∃ β, TransGen g.Step [A] (B :: β) := by
  obtain ⟨α, hα, hB⟩ := (front_iff_inFront hg).mp h
  obtain ⟨β, hβ⟩ := hB.exists_derives hg fun hε => (Alternative.mem_body.mp hε).2 rfl
  exact ⟨β, .head' (step_singleton_iff.mpr ⟨α, hα, rfl⟩) hβ⟩

/-- A path of fronts leads from `A` to `B` exactly if `A` derives a sequence that begins with `B`. -/
theorem transGen_front_iff_derives (hg : g.Canonical) (hB : B ∈ g.nonterminals) :
    TransGen g.Front A B ↔ ∃ β, TransGen g.Step [A] (B :: β) := by
  constructor
  · intro h
    induction h with
    | single h => exact h.exists_derives hg
    | tail _ h ih =>
      obtain ⟨γ, hγ⟩ := ih h.mem_nonterminals
      obtain ⟨β, hβ⟩ := h.exists_derives hg
      exact ⟨β ++ γ, hγ.trans_left (Derives.append hβ.to_reflTransGen (.refl γ))⟩
  · rintro ⟨β, h⟩
    obtain ⟨_, hs, hd⟩ := TransGen.head'_iff.mp h
    obtain ⟨α, hα, rfl⟩ := step_singleton_iff.mp hs
    obtain ⟨C, hC, hCB⟩ := InFront.of_derives hg hd (.head hB β)
    exact .head' ((front_iff_inFront hg).mpr ⟨α, hα, hC⟩) hCB

/-- The left-recursive nonterminals are listed in the order of their declaration, each once: they are those that
derive, in one step or more, a sequence that begins with themselves. -/
theorem leftRecursive_lists_left_derivations (hg : g.Canonical) :
    g.leftRecursive.Sublist g.nonterminals ∧ g.leftRecursive.Nodup ∧
      ∀ A, A ∈ g.leftRecursive ↔ A ∈ g.nonterminals ∧ ∃ β, TransGen g.Step [A] (A :: β) := by
  have hsub : g.leftRecursive.Sublist g.nonterminals := List.filter_sublist
  refine ⟨hsub, hsub.nodup g.distinct, fun A => ?_⟩
  rw [mem_leftRecursive_iff_transGen hg]
  constructor
  · intro h
    obtain ⟨B, hfront, -⟩ := TransGen.head'_iff.mp h
    have hA := hfront.mem_nonterminals
    exact ⟨hA, (transGen_front_iff_derives hg hA).mp h⟩
  · rintro ⟨hA, h⟩
    exact (transGen_front_iff_derives hg hA).mpr h

/-- A sign that may be missing in front of a term, and a cycle of units that goes past `E`. -/
def unsteady : Grammar := .ofList
  [("E", [["M", "E", "+", "T"], ["T"]]), ("M", [["m"], ["ε"]]), ("T", [["U", "t"], ["t"]]),
    ("U", [["V"], ["M"]]), ("V", [["U"], ["v"]])]

theorem unsteady_lists_left_derivations : unsteady.Canonical ∧
    unsteady.leftRecursive.Sublist unsteady.nonterminals ∧ unsteady.leftRecursive.Nodup ∧
      ∀ A, A ∈ unsteady.leftRecursive ↔
        A ∈ unsteady.nonterminals ∧ ∃ β, TransGen unsteady.Step [A] (A :: β) := by
  have hg : unsteady.Canonical := by decide +kernel
  exact ⟨hg, leftRecursive_lists_left_derivations hg⟩

/-- `E` comes back to the front once the sign has vanished, and the cycle of `U` and `V` is not one of `T`. -/
example : unsteady.leftRecursive = ["E", "U", "V"] := by decide +kernel

end FormalLanguages.Grammar
