import FormalLanguages.Proofs.Grammar.Unfolding
/-!
# Fronts where a new nonterminal is split off

When `A → A β | γ` gives way to `A → γ A'` and `A' → β A' | ε`, the new nonterminal stands at the end of
alternatives only. It comes to the front of one of `A` if `γ` vanishes, and then `A` vanished before, so that
the fronts of its tails `β`, which are fronts of the new nonterminal, were fronts of `A`: where fronts lead
from an old nonterminal to another after the split, they led there before.

Results:
* `Split.place_cases`: where a place in an alternative comes from.
* `Split.front_cases`, `Split.transGen_front`: what is a front, and where fronts lead, after a split.
* `Split.front_of_solid`, `Split.hiddenFront_of_solid`: there are no new ones if `A` does not vanish.
* `Thinning.front`: nor if alternatives are left out.
* `transGen_front_of_removeImmediate`: treating a nonterminal leads old nonterminals to no new fronts.
-/
namespace FormalLanguages

open FormalLanguages.Alternative (body)

namespace Grammar

open Relation

variable {g h : Grammar} {A B C D prime : Symbol} {α β γ : Alternative} {taken : NameSet}

/-! ## One split -/

namespace Split

variable {before after : List Symbol}

theorem ne_prime (hs : Split g h A prime) (hC : C ∈ g.nonterminals) : C ≠ prime :=
  ne_of_mem_of_not_mem hC hs.prime_not_mem

theorem yields_iff (hs : Split g h A prime) {w : List Symbol} (hα : prime ∉ α) :
    h.Yields α w ↔ g.Yields α w := by
  rw [← mem_ofSeq_meaning, ← mem_ofSeq_meaning,
    Reading.ofSeq_congr fun s hmem => hs.meaning_eq (ne_of_mem_of_not_mem hmem hα)]

theorem prime_not_mem_before (hs : Split g h A prime) (hα : before ++ D :: after ∈ g.alternatives C) :
    prime ∉ before :=
  fun hmem => hs.prime_unused C _ hα (List.mem_append_left _ hmem)

theorem prime_not_mem_body (hs : Split g h A prime) (hα : α ∈ g.alternatives C) : prime ∉ body α :=
  fun hmem => hs.prime_unused C α hα (Alternative.mem_body.mp hmem).1

/-- Places in what the new nonterminal is put behind. -/
theorem place_of_concat_prime (hs : Split g h A prime) (hα : α.IsCanonical) (hunused : prime ∉ α)
    (hD : D ≠ epsilon) (he : α.concat [prime] = before ++ D :: after) :
    D ≠ prime ∧ (∃ after', α = before ++ D :: after' ∧ after = after' ++ [prime]) ∨
      D = prime ∧ after = [] ∧ before = body α := by
  rcases Alternative.place_of_concat hα (by simpa using hs.prime_ne_epsilon.symm) hD he with
    ⟨after', rfl, hafter⟩ | ⟨before', hp, rfl⟩
  · exact Or.inl ⟨fun h => hunused (h ▸ by simp), after', rfl, hafter⟩
  · obtain ⟨rfl, hp⟩ | ⟨rest, -, hp⟩ := List.cons_eq_append_iff.mp hp
    · obtain ⟨rfl, rfl⟩ := List.cons.inj hp
      exact Or.inr ⟨rfl, rfl, by simp⟩
    · simp at hp

/-- A place in an alternative was there before, or it was in a tail, or it is that of the new nonterminal at
the end. -/
theorem place_cases (hs : Split g h A prime) (hg : g.Canonical) (hD : D ∈ h.nonterminals)
    (hα : before ++ D :: after ∈ h.alternatives C) :
    (C ≠ prime ∧ D ≠ prime ∧ ∃ after', before ++ D :: after' ∈ g.alternatives C ∧
      (C = A → (before ++ D :: after').head? ≠ some A ∧ after = after' ++ [prime]) ∧
      (C ≠ A → after = after')) ∨
    (C = prime ∧ D ≠ prime ∧ ∃ after', A :: (before ++ D :: after') ∈ g.alternatives A) ∨
    (D = prime ∧ after = [] ∧
      (C = A ∧ (∃ γ ∈ g.alternatives A, before = body γ ∧ γ.head? ≠ some A) ∨
        C = prime ∧ ∃ β, β ≠ [] ∧ A :: β ∈ g.alternatives A ∧ before = β)) := by
  have hDε : D ≠ epsilon := ((hs.nonterminals D).mp hD).elim (· ▸ hs.prime_ne_epsilon) hg.ne_epsilon
  by_cases hC : C = prime
  · subst hC
    rw [hs.atPrime, List.mem_append, List.mem_map, List.mem_singleton] at hα
    rcases hα with ⟨β, hβ, he⟩ | he
    · obtain ⟨hne, hmem⟩ := mem_recursiveTails_iff.mp hβ
      have hε := hg.epsilon_not_mem_behind hmem
      rcases hs.place_of_concat_prime (Or.inr ⟨hne, hε⟩) (hs.prime_not_mem_tail hβ) hDε he with
        ⟨hD, after', rfl, -⟩ | ⟨hD, rfl, rfl⟩
      · exact Or.inr (Or.inl ⟨rfl, hD, after', hmem⟩)
      · exact Or.inr (Or.inr ⟨hD, rfl, Or.inr ⟨rfl, β, hne, hmem, Alternative.body_eq_self hε⟩⟩)
    · have hmem : D ∈ [epsilon] := he ▸ by simp
      exact absurd (List.mem_singleton.mp hmem) hDε
  by_cases hCA : C = A
  · subst hCA
    rw [hs.atNonterminal, List.mem_map] at hα
    obtain ⟨γ, hγ, he⟩ := hα
    obtain ⟨hγ, hhead⟩ := mem_otherAlternatives_iff.mp hγ
    rcases hs.place_of_concat_prime (hg.cases hγ) (hs.prime_unused C γ hγ) hDε he with
      ⟨hD, after', rfl, hafter⟩ | ⟨hD, rfl, rfl⟩
    · exact Or.inl ⟨hC, hD, after', hγ, fun _ => ⟨hhead, hafter⟩, fun h => absurd rfl h⟩
    · exact Or.inr (Or.inr ⟨hD, rfl, Or.inl ⟨rfl, γ, hγ, rfl, hhead⟩⟩)
  · rw [hs.elsewhere C hCA hC] at hα
    exact Or.inl ⟨hC, fun h => hs.prime_unused C _ hα (h ▸ by simp), after, hα, fun h => absurd h hCA,
      fun _ => rfl⟩

/-- A front was one before; or it is the new nonterminal, as one of `A`, which vanishes, or as its own; or it is
one of the new nonterminal, in a tail. -/
theorem front_cases (hs : Split g h A prime) (hg : g.Canonical) (hf : h.Front C D) :
    (C ≠ prime ∧ D ≠ prime ∧ g.Front C D) ∨ (C = A ∧ D = prime ∧ g.Yields [A] []) ∨
      C = prime ∧ (D = prime ∨ D ≠ prime ∧ D ∈ g.nonterminals ∧
        ∃ before after, A :: (before ++ D :: after) ∈ g.alternatives A ∧ g.Yields before []) := by
  obtain ⟨hD, before, after, hα, hv⟩ := hf
  have hold : D ≠ prime → D ∈ g.nonterminals := ((hs.nonterminals D).mp hD).resolve_left
  rcases hs.place_cases hg hD hα with ⟨hC, hDp, after', hα, -⟩ | ⟨rfl, hDp, after', hα⟩ |
    ⟨hDp, -, ⟨rfl, γ, hγ, rfl, -⟩ | ⟨rfl, -⟩⟩
  · exact Or.inl ⟨hC, hDp, hold hDp, before, after', hα, (hs.yields_iff (hs.prime_not_mem_before hα)).mp hv⟩
  · have hunused : C ∉ before := fun hmem =>
      hs.prime_unused A _ hα (List.mem_cons_of_mem _ (List.mem_append_left _ hmem))
    exact Or.inr (Or.inr ⟨rfl, Or.inr ⟨hDp, hold hDp, before, after', hα, (hs.yields_iff hunused).mp hv⟩⟩)
  · have hv := ((hs.yields_iff (hs.prime_not_mem_body hγ)).mp hv).of_body
    exact Or.inr (Or.inl ⟨rfl, hDp, .of_alternative hγ hv⟩)
  · exact Or.inr (Or.inr ⟨rfl, Or.inl hDp⟩)

/-- Where fronts lead from an old nonterminal after the split, they led before; to the new one only by way of
`A`, if that vanishes. -/
theorem transGen_front (hs : Split g h A prime) (hg : g.Canonical) (hC : C ≠ prime)
    (hf : TransGen h.Front C D) :
    D ≠ prime ∧ TransGen g.Front C D ∨ D = prime ∧ ReflTransGen g.Front C A ∧ g.Yields [A] [] := by
  induction hf with
  | single hf =>
    rcases hs.front_cases hg hf with ⟨-, hD, hf⟩ | ⟨rfl, hD, hv⟩ | ⟨hC', -⟩
    · exact Or.inl ⟨hD, .single hf⟩
    · exact Or.inr ⟨hD, .refl, hv⟩
    · exact absurd hC' hC
  | tail _ hf ih =>
    rcases hs.front_cases hg hf with ⟨hne, hD, hf⟩ | ⟨rfl, hD, hv⟩ | ⟨rfl, hD⟩
    · exact ih.elim (fun ih => Or.inl ⟨hD, ih.2.tail hf⟩) fun ih => absurd ih.1 hne
    · refine ih.elim (fun ih => Or.inr ⟨hD, ih.2.to_reflTransGen, hv⟩) fun ih => ?_
      exact absurd ih.1 (hs.ne_prime hs.mem)
    · obtain ⟨-, hlead, hv⟩ := ih.resolve_left fun ih => ih.1 rfl
      -- behind `A`, which vanishes, the front of a tail is a front of `A`
      refine hD.symm.imp (fun ⟨hD, hmem, before, after, hα, hb⟩ => ⟨hD, TransGen.tail' hlead ?_⟩)
        fun hD => ⟨hD, hlead, hv⟩
      exact ⟨hmem, A :: before, after, hα, yields_cons_nil_iff.mpr ⟨hv, hb⟩⟩

section
variable (hs : Split g h A prime) (hg : g.Canonical) (hsolid : ¬ g.Yields [A] []) (hC : C ≠ prime)
include hs hg hsolid hC

/-- Where `A` does not vanish, an old nonterminal has the fronts that it had. -/
theorem front_of_solid (hf : h.Front C D) : g.Front C D := by
  rcases hs.front_cases hg hf with ⟨-, -, hf⟩ | ⟨-, -, hv⟩ | ⟨hC', -⟩
  · exact hf
  · exact absurd hv hsolid
  · exact absurd hC' hC

theorem hiddenFront_of_solid (hf : h.HiddenFront C D) : g.HiddenFront C D := by
  obtain ⟨hD, before, after, hne, hα, hv⟩ := hf
  rcases hs.place_cases hg hD hα with ⟨-, hDp, after', hα, -⟩ | ⟨hC', -⟩ |
    ⟨-, -, ⟨rfl, γ, hγ, rfl, -⟩ | ⟨hC', -⟩⟩
  · exact ⟨((hs.nonterminals D).mp hD).resolve_left hDp, before, after', hne, hα,
      (hs.yields_iff (hs.prime_not_mem_before hα)).mp hv⟩
  · exact absurd hC' hC
  · have hv := ((hs.yields_iff (hs.prime_not_mem_body hγ)).mp hv).of_body
    exact absurd (.of_alternative hγ hv) hsolid
  · exact absurd hC' hC

theorem transGen_front_of_solid (hf : TransGen h.Front C D) : TransGen g.Front C D :=
  ((hs.transGen_front hg hC hf).resolve_right fun h => hsolid h.2.2).2

end

end Split

/-! ## Fewer alternatives -/

/-- `h` is `g` without some alternatives that add nothing. -/
structure Thinning (g h : Grammar) : Prop where
  nonterminals : h.nonterminals = g.nonterminals
  meaning : h.meaning = g.meaning
  subset : ∀ C, h.alternatives C ⊆ g.alternatives C

theorem thinning_insert {alternatives kept : List Alternative} (hA : A ∈ g.nonterminals)
    (hk : kept ⊆ alternatives) (hdropped : ∀ α ∈ alternatives, α ∈ kept ∨ α = [A]) :
    Thinning (g.insert A alternatives) (g.insert A kept) where
  nonterminals := by rw [nonterminals_insert_of_mem hA, nonterminals_insert_of_mem hA]
  meaning := meaning_insert_of_dropped hk hdropped
  subset C α hα := by
    rw [alternatives_insert] at hα ⊢
    split
    · next hC => exact hk (by rwa [if_pos hC] at hα)
    · next hC => rwa [if_neg hC] at hα

/-- Alternatives that are their nonterminal alone can be left out. -/
theorem thinning_otherAlternatives {alternatives : List Alternative} (hA : A ∈ g.nonterminals)
    (htails : recursiveTails A alternatives = []) :
    Thinning (g.insert A alternatives) (g.insert A (otherAlternatives A alternatives)) :=
  thinning_insert hA (fun _ hα => (mem_otherAlternatives_iff.mp hα).1) fun _ => mem_otherAlternatives_or_eq htails

namespace Thinning

theorem yields_iff (ht : Thinning g h) {w : List Symbol} : h.Yields α w ↔ g.Yields α w := by
  rw [← mem_ofSeq_meaning, ht.meaning, mem_ofSeq_meaning]

theorem canonical (ht : Thinning g h) (hg : g.Canonical) : h.Canonical :=
  canonical_iff.mpr ⟨ht.nonterminals ▸ hg.epsilon_not_mem, fun C _ hα => hg.cases (ht.subset C hα)⟩

/-- There are no new fronts. -/
theorem front (ht : Thinning g h) (hf : h.Front C D) : g.Front C D := by
  obtain ⟨hD, before, after, hα, hv⟩ := hf
  exact ⟨ht.nonterminals ▸ hD, before, after, ht.subset C hα, ht.yields_iff.mp hv⟩

theorem hiddenFront (ht : Thinning g h) (hf : h.HiddenFront C D) : g.HiddenFront C D := by
  obtain ⟨hD, before, after, hne, hα, hv⟩ := hf
  exact ⟨ht.nonterminals ▸ hD, before, after, hne, ht.subset C hα, ht.yields_iff.mp hv⟩

end Thinning

/-! ## One turn -/

section
variable {alternatives : List Alternative} {i n : Nat}

/-- Settling leads to no new fronts. -/
theorem transGen_front_of_settle (hg : g.Canonical) (hA : g.nonterminals[i]? = some A)
    (h : g.settle (g.nonterminals.take i) n (g.alternatives A) = .ok alternatives) :
    Canonical (g.insert A alternatives) ∧
      ∀ C D, Front (g.insert A alternatives) C D → TransGen g.Front C D := by
  refine settle_induction_of_unfoldings
    (P := fun k => k.Canonical ∧ ∀ C D, k.Front C D → TransGen g.Front C D)
    hg.epsilon_not_mem (List.mem_of_getElem? hA) (mem_take_of_getElem? hA)
    (fun B _ hu ⟨hk, hlead⟩ => ⟨hu.canonical hk, fun C D hf => ?_⟩) h ⟨hg, fun C D => .single⟩
  rcases hu.front_cases hk hf with hf | ⟨rfl, hB, hD⟩
  · exact hlead C D hf
  · exact (hlead C B hB).trans (hlead B D hD)

/-- Treating a nonterminal that has an alternative to begin with leads from old nonterminals to no old ones to
which they did not lead before. -/
theorem transGen_front_of_removeImmediate (ht : Tidy g taken) (hA : g.nonterminals[i]? = some A)
    (h : g.settle (g.nonterminals.take i) n (g.alternatives A) = .ok alternatives)
    (hground : Grounded A alternatives) (hC : C ∈ g.nonterminals) (hD : D ∈ g.nonterminals)
    (hf : TransGen (g.removeImmediate taken A alternatives).1.Front C D) : TransGen g.Front C D := by
  have hmem := List.mem_of_getElem? hA
  obtain ⟨hg, hsettled⟩ := transGen_front_of_settle ht.canonical hA h
  suffices hf : TransGen (Front (g.insert A alternatives)) C D from TransGen.closed hsettled _ _ hf
  by_cases htails : recursiveTails A alternatives = []
  · obtain ⟨kept, hkept, hsub, -, hdropped⟩ := exists_removeImmediate_of_no_tails g taken htails
    rw [hkept] at hf
    exact TransGen.mono (fun _ _ => (thinning_insert hmem hsub hdropped).front) _ _ hf
  · rw [removeImmediate_of_tails g taken htails (hground htails)] at hf
    have hs := ht.split hmem (ht.known_of_settle h) (prime_not_mem A taken) (prime_ne_epsilon A taken)
    have hold : ∀ {B : Symbol}, B ∈ g.nonterminals → B ≠ freshName A "'" taken.toList "" := fun hB =>
      hs.ne_prime (mem_nonterminals_insert.mpr (Or.inr hB))
    exact ((hs.transGen_front hg (hold hC) hf).resolve_right fun h => hold hD h.1).2

end

end Grammar

end FormalLanguages
