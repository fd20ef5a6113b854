import FormalLanguages.Proofs.Grammar.EliminationLanguage
import FormalLanguages.Proofs.Grammar.Fronts
/-!
# Elimination of left recursion in a grammar that has none

A substitution replaces a nonterminal `B` in front of an alternative `B γ` of `A` by its alternatives. Nothing
yields other words afterwards, and the fronts of `A` that are new are fronts of `B`: what leads somewhere after
the substitution led there before.

In a grammar that is not left recursive fronts have no cycle, so they fall in rank, and this remains so. Then
the elimination of left recursion does nothing but substitute, and it comes to an end.

Results:
* `Unfolding.place_cases`: where a place in an alternative comes from.
* `Unfolding.front_cases`, `Unfolding.hiddenFront_cases`: what is a front after a substitution.
* `exists_eliminateLeftRecursion_of_unfoldings`: where fronts fall in rank, the elimination comes to an end with
  no new nonterminal, and keeps what each substitution keeps.
* `eliminateLeftRecursion_of_not_leftRecursive`: so it does in a grammar that is not left recursive, and nothing
  derives other words.
-/
namespace FormalLanguages

open FormalLanguages.Alternative (body)

namespace Alternative

variable {δ γ before after : Alternative} {C : Symbol}

theorem IsCanonical.epsilon_not_mem_of_place (h : (before ++ C :: after).IsCanonical)
    (hC : C ≠ epsilon) : epsilon ∉ before ++ C :: after := by
  rcases h with h | ⟨-, h⟩
  · have hC' : C ∈ [epsilon] := h ▸ by simp
    exact absurd (List.mem_singleton.mp hC') hC
  · exact h

/-- A place in a concatenation is a place in the first part or in the second. -/
theorem place_of_concat (hδ : δ.IsCanonical) (hγ : epsilon ∉ γ) (hC : C ≠ epsilon)
    (h : δ.concat γ = before ++ C :: after) :
    (∃ after', δ = before ++ C :: after' ∧ after = after' ++ γ) ∨
      ∃ before', γ = before' ++ C :: after ∧ before = body δ ++ before' := by
  have happend : body δ ++ γ = before ++ C :: after := by
    rw [concat_eq, body_append, body_eq_self hγ] at h
    split at h
    · have hcanonical : (before ++ C :: after).IsCanonical := Or.inl h.symm
      exact absurd (by simp [← h]) (hcanonical.epsilon_not_mem_of_place hC)
    · exact h
  have hfirst : ∀ after', body δ = before ++ C :: after' → δ = before ++ C :: after' := by
    intro after' he
    rcases hδ with rfl | ⟨-, hδ⟩
    · simp at he
    · rwa [body_eq_self hδ] at he
  exact (place_of_append happend).imp_left fun ⟨rest, hδ, hafter⟩ => ⟨rest, hfirst rest hδ, hafter⟩

end Alternative

namespace Grammar

open Relation

variable {g h r : Grammar} {A B C D : Symbol} {α β γ δ : Alternative} {rank : Symbol → Nat}

/-! ## One substitution -/

/-- `h` is `g` with `B` replaced in front of alternatives of `A`. -/
structure Unfolding (g h : Grammar) (A B : Symbol) : Prop where
  mem : B ∈ g.nonterminals
  ne : B ≠ A
  nonterminals : h.nonterminals = g.nonterminals
  meaning : h.meaning = g.meaning
  atOwner : ∀ β ∈ h.alternatives A, β ∈ g.alternatives A ∧ β.head? ≠ some B ∨
    ∃ γ δ, B :: γ ∈ g.alternatives A ∧ δ ∈ g.alternatives B ∧ β = δ.concat γ
  elsewhere : ∀ C ≠ A, h.alternatives C = g.alternatives C

theorem unfolding_insert (hε : epsilon ∉ g.nonterminals) (hA : A ∈ g.nonterminals)
    (hB : B ∈ g.nonterminals) (hne : B ≠ A) (alternatives : List Alternative) :
    Unfolding (g.insert A alternatives) (g.insert A (substitute B (g.alternatives B) alternatives))
      A B where
  mem := mem_nonterminals_insert.mpr (Or.inr hB)
  ne := hne
  nonterminals := by rw [nonterminals_insert_of_mem hA, nonterminals_insert_of_mem hA]
  meaning := meaning_substitute hε hA hB hne alternatives
  atOwner β hβ := by
    rw [alternatives_insert, if_pos rfl] at hβ
    simpa only [alternatives_insert, if_pos, if_neg hne] using mem_substitute_iff.mp hβ
  elsewhere C hC := by rw [alternatives_insert, alternatives_insert, if_neg hC, if_neg hC]

namespace Unfolding

theorem yields_iff (hu : Unfolding g h A B) {α w : List Symbol} : h.Yields α w ↔ g.Yields α w := by
  rw [← mem_ofSeq_meaning, hu.meaning, mem_ofSeq_meaning]

theorem cases (hu : Unfolding g h A B) (hα : α ∈ h.alternatives C) :
    α ∈ g.alternatives C ∧ (C = A → α.head? ≠ some B) ∨
      C = A ∧ ∃ γ δ, B :: γ ∈ g.alternatives A ∧ δ ∈ g.alternatives B ∧ α = δ.concat γ := by
  by_cases hC : C = A
  · subst hC
    exact (hu.atOwner α hα).imp (fun h => ⟨h.1, fun _ => h.2⟩) fun h => ⟨rfl, h⟩
  · exact Or.inl ⟨hu.elsewhere C hC ▸ hα, fun h => absurd h hC⟩

theorem canonical (hu : Unfolding g h A B) (hg : g.Canonical) : h.Canonical := by
  refine canonical_iff.mpr ⟨hu.nonterminals ▸ hg.epsilon_not_mem, fun C α hα => ?_⟩
  rcases hu.cases hα with ⟨hα, -⟩ | ⟨-, γ, δ, -, -, rfl⟩
  · exact hg.cases hα
  · exact Alternative.isCanonical_concat δ γ

/-- A place in an alternative was there before, or it comes from one in an alternative of `B`, or it stands
behind what replaces `B`. -/
theorem place_cases (hu : Unfolding g h A B) (hg : g.Canonical) (hD : D ∈ h.nonterminals)
    {before after : List Symbol} (hα : before ++ D :: after ∈ h.alternatives C) :
    before ++ D :: after ∈ g.alternatives C ∨
      C = A ∧ (∃ γ after', B :: γ ∈ g.alternatives A ∧ before ++ D :: after' ∈ g.alternatives B ∧
        after = after' ++ γ) ∨
      C = A ∧ ∃ δ before', B :: (before' ++ D :: after) ∈ g.alternatives A ∧ δ ∈ g.alternatives B ∧
        before = body δ ++ before' := by
  have hDε := hg.ne_epsilon (hu.nonterminals ▸ hD)
  rcases hu.cases hα with ⟨hα, -⟩ | ⟨rfl, γ, δ, hγ, hδ, he⟩
  · exact Or.inl hα
  · have hγε := hg.epsilon_not_mem_behind hγ
    rcases Alternative.place_of_concat (hg.cases hδ) hγε hDε he.symm with
      ⟨after', rfl, rfl⟩ | ⟨before', rfl, rfl⟩
    · exact Or.inr (Or.inl ⟨rfl, γ, after', hγ, hδ, rfl⟩)
    · exact Or.inr (Or.inr ⟨rfl, δ, before', hγ, hδ, rfl⟩)

/-- What vanishes behind what replaces `B` vanished behind `B`. -/
theorem yields_behind (hu : Unfolding g h A B) (hδ : δ ∈ g.alternatives B) {before : List Symbol}
    (hv : h.Yields (body δ ++ before) []) : g.Yields (B :: before) [] := by
  obtain ⟨hvδ, hv⟩ := yields_append_nil_iff.mp (hu.yields_iff.mp hv)
  exact yields_cons_nil_iff.mpr ⟨.of_alternative hδ hvδ.of_body, hv⟩

/-- A front was one before, or it was a front of `B`, which was one of `A`. -/
theorem front_cases (hu : Unfolding g h A B) (hg : g.Canonical) (hf : h.Front C D) :
    g.Front C D ∨ C = A ∧ g.Front A B ∧ g.Front B D := by
  obtain ⟨hD, before, after, hα, hv⟩ := hf
  have hD' : D ∈ g.nonterminals := hu.nonterminals ▸ hD
  rcases hu.place_cases hg hD hα with hα | ⟨rfl, γ, after', hγ, hδ, -⟩ | ⟨rfl, δ, before', hγ, hδ, rfl⟩
  · exact Or.inl ⟨hD', before, after, hα, hu.yields_iff.mp hv⟩
  · exact Or.inr ⟨rfl, front_of_head hu.mem hγ, hD', before, after', hδ, hu.yields_iff.mp hv⟩
  · exact Or.inl ⟨hD', B :: before', after, hγ, hu.yields_behind hδ hv⟩

/-- A hidden front was one before, or it was a hidden front of `B`, which was a front of `A`. -/
theorem hiddenFront_cases (hu : Unfolding g h A B) (hg : g.Canonical) (hf : h.HiddenFront C D) :
    g.HiddenFront C D ∨ C = A ∧ g.Front A B ∧ g.HiddenFront B D := by
  obtain ⟨hD, before, after, hne, hα, hv⟩ := hf
  have hD' : D ∈ g.nonterminals := hu.nonterminals ▸ hD
  rcases hu.place_cases hg hD hα with hα | ⟨rfl, γ, after', hγ, hδ, -⟩ | ⟨rfl, δ, before', hγ, hδ, rfl⟩
  · exact Or.inl ⟨hD', before, after, hne, hα, hu.yields_iff.mp hv⟩
  · exact Or.inr ⟨rfl, front_of_head hu.mem hγ, hD', before, after', hne, hδ, hu.yields_iff.mp hv⟩
  · exact Or.inl ⟨hD', B :: before', after, by simp, hγ, hu.yields_behind hδ hv⟩

/-- What leads somewhere led there before. -/
theorem transGen_front (hu : Unfolding g h A B) (hg : g.Canonical) (hf : h.Front C D) :
    TransGen g.Front C D := by
  rcases hu.front_cases hg hf with hf | ⟨rfl, hB, hD⟩
  · exact .single hf
  · exact .tail (.single hB) hD

/-- The rank still falls along fronts. -/
theorem descends (hu : Unfolding g h A B) (hg : g.Canonical) (hd : g.Descends rank) :
    h.Descends rank := by
  intro C D hf
  rcases hu.front_cases hg hf with hf | ⟨rfl, hB, hD⟩
  · exact hd C D hf
  · exact (hd B D hD).trans (hd C B hB)

end Unfolding

/-! ## The whole elimination -/

theorem insert_alternatives_self (hA : A ∈ g.nonterminals) : g.insert A (g.alternatives A) = g := by
  refine OrderedMap.ext_getD [] (nonterminals_insert_of_mem hA _) fun C => ?_
  refine (alternatives_insert g A C _).trans ?_
  split
  · next h => rw [h]; rfl
  · rfl

/-- What each substitution keeps, settling the alternatives of a nonterminal keeps. -/
theorem settle_induction_of_unfoldings {P : Grammar → Prop} {earlier : List Symbol}
    (hε : epsilon ∉ g.nonterminals) (hA : A ∈ g.nonterminals)
    (hsub : ∀ B ∈ earlier, B ∈ g.nonterminals ∧ B ≠ A)
    (hunfold : ∀ {k h : Grammar}, ∀ B ∈ earlier, Unfolding k h A B → P k → P h) {n : Nat}
    {alternatives : List Alternative} (h : g.settle earlier n (g.alternatives A) = .ok alternatives)
    (hP : P g) : P (g.insert A alternatives) := by
  refine settle_induction (P := fun as => P (g.insert A as)) (fun B hB as _ has => ?_) h
    (by rwa [insert_alternatives_self hA])
  exact hunfold B hB (unfolding_insert hε hA (hsub B hB).1 (hsub B hB).2 as) has

/-- A nonterminal that is not in front of its alternatives just takes them. -/
theorem removeImmediate_of_no_fronts (g : Grammar) (taken : NameSet) {alternatives : List Alternative}
    (h : ∀ α ∈ alternatives, α.head? ≠ some A) :
    g.removeImmediate taken A alternatives = (g.insert A alternatives, taken) := by
  have htails : recursiveTails A alternatives = [] := List.eq_nil_iff_forall_not_mem.mpr fun β hβ =>
    h _ (mem_recursiveTails_iff.mp hβ).2 rfl
  have hothers : otherAlternatives A alternatives = alternatives :=
    List.filter_eq_self.mpr fun α hα => by simpa using h α hα
  simp [removeImmediate, htails, hothers]

/-- No nonterminal is in front of its own alternatives where the rank falls along fronts. -/
theorem Descends.head?_ne (hd : g.Descends rank) (hα : α ∈ g.alternatives A) : α.head? ≠ some A := by
  intro hhead
  obtain ⟨γ, rfl⟩ := List.head?_eq_some_iff.mp hhead
  exact Nat.lt_irrefl _ (hd A A (front_of_head (mem_nonterminals_of_mem_alternatives hα) hα))

section
variable {P : Grammar → Prop} (hranked : ∀ {k : Grammar}, P k → k.Canonical ∧ k.Descends rank)
  (hunfold : ∀ {k h : Grammar} {A B : Symbol}, Unfolding k h A B → P k → P h)
include hranked hunfold

/-- A nonterminal settles to alternatives without itself in front, by substitutions only. -/
theorem exists_turn_of_unfoldings (hg : P g) {i : Nat} (hA : g.nonterminals[i]? = some A)
    (taken : NameSet) : ∃ n alternatives,
      g.settle (g.nonterminals.take i) n (g.alternatives A) = .ok alternatives ∧ [] ∉ alternatives ∧
      (g.removeImmediate taken A alternatives).1.nonterminals = g.nonterminals ∧
      P (g.removeImmediate taken A alternatives).1 := by
  have hmem := List.mem_of_getElem? hA
  obtain ⟨n, alternatives, hs, -⟩ := ((hranked hg).2.descendsIn _).exists_settle (hranked hg).1
    (fun B hB => List.mem_of_mem_take hB) A
  have hP : P (g.insert A alternatives) := settle_induction_of_unfoldings (hranked hg).1.epsilon_not_mem
    hmem (mem_take_of_getElem? hA) (fun _ _ => hunfold) hs hg
  obtain ⟨hcanonical, hd⟩ := hranked hP
  have hα : ∀ α ∈ alternatives, α ∈ Grammar.alternatives (g.insert A alternatives) A := fun α hα => by
    rwa [alternatives_insert, if_pos rfl]
  refine ⟨n, alternatives, hs, fun hnil => ?_, ?_⟩
  · exact Alternative.IsCanonical.ne_nil (hcanonical.cases (hα [] hnil)) rfl
  · rw [removeImmediate_of_no_fronts g taken fun α h => hd.head?_ne (hα α h)]
    exact ⟨nonterminals_insert_of_mem hmem alternatives, hP⟩

/-- Where fronts fall in rank, the elimination comes to an end with no new nonterminal. -/
theorem exists_eliminateLeftRecursion_of_unfoldings (hg : P g) :
    ∃ r, (∃ n, ∀ rounds ≥ n, g.eliminateLeftRecursion rounds = .ok r) ∧
      r.nonterminals = g.nonterminals ∧ P r := by
  obtain ⟨r, hr, _, _, -, hdone⟩ := exists_eliminateLeftRecursion_of_measure
    (S := fun k _ _ => k.nonterminals = g.nonterminals ∧ P k) (fun k i => k.nonterminals.length - i)
    (by
      rintro k taken i A ⟨hn, hk⟩ hA
      obtain ⟨n, alternatives, hs, hne, hn', hnext⟩ := exists_turn_of_unfoldings hranked hunfold hk hA taken
      have hi := (List.getElem?_eq_some_iff.mp hA).1
      exact ⟨n, alternatives, hs, hne, ⟨hn'.trans hn, hnext⟩, by rw [hn']; omega⟩)
    ⟨rfl, hg⟩
  exact ⟨r, hr, hdone⟩

end

/-- In a grammar that is not left recursive the elimination comes to an end with the same nonterminals; the
result is not left recursive either, and every nonterminal, productive or not, derives the same words. -/
theorem eliminateLeftRecursion_of_not_leftRecursive (hg : g.Canonical) (hl : g.leftRecursive = []) :
    ∃ r, (∃ n, ∀ rounds ≥ n, g.eliminateLeftRecursion rounds = .ok r) ∧
      r.nonterminals = g.nonterminals ∧ r.leftRecursive = [] ∧
      ∀ A ∈ g.nonterminals, r.language A = g.language A := by
  obtain ⟨rank, hd⟩ := exists_descends ((leftRecursive_eq_nil_iff hg).mp hl)
  obtain ⟨r, hr, hn, ⟨hcanonical, hdr⟩, hmeaning⟩ := exists_eliminateLeftRecursion_of_unfoldings
    (P := fun k => (k.Canonical ∧ k.Descends rank) ∧ k.meaning = g.meaning) (fun hk => hk.1)
    (fun hu ⟨⟨hk, hd⟩, hm⟩ => ⟨⟨hu.canonical hk, hu.descends hk hd⟩, hu.meaning.trans hm⟩)
    ⟨⟨hg, hd⟩, rfl⟩
  refine ⟨r, hr, hn, (leftRecursive_eq_nil_iff hcanonical).mpr hdr.not_transGen, fun A hA => ?_⟩
  rw [language_eq_meaning hcanonical.epsilon_not_mem (hn ▸ hA),
    language_eq_meaning hg.epsilon_not_mem hA, hmeaning]

/-- A grammar without left recursion: `A` has a front behind one that vanishes, and `N` derives nothing. -/
def level : Grammar := .ofList
  [("B", [["ε"], ["b"]]), ("C", [["B"], ["B", "c"]]), ("A", [["B", "C", "a"], ["C"]]), 
    ("N", [["n", "N"], ["C", "n", "N"]])]

theorem level_eliminates :
    level.Canonical ∧ level.leftRecursive = [] ∧
    ∃ r, (∃ n, ∀ rounds ≥ n, level.eliminateLeftRecursion rounds = .ok r) ∧
      r.nonterminals = level.nonterminals ∧ r.leftRecursive = [] ∧
      ∀ A ∈ level.nonterminals, r.language A = level.language A := by
  have hg : level.Canonical := by decide
  have hl : level.leftRecursive = [] := by decide +kernel
  exact ⟨hg, hl, eliminateLeftRecursion_of_not_leftRecursive hg hl⟩

end Grammar

end FormalLanguages
