import FormalLanguages.Proofs.Grammar.VanishingRecursion
/-!
# Elimination of left recursion that does not come to an end

A nonterminal with the alternatives `S S` and `ε`, as in the grammar of balanced brackets, gives way to `S → S'` and
`S' → S S' | ε`. When the turn of `S'` comes, `S` is replaced in front of `S S'`, which leaves `S' S'`: the new
nonterminal is left recursive as the old one was, and breeds another one, and so on.

Results:
* `Breeding.removeImmediate`: each turn leaves one more nonterminal like that.
* `eliminateLeftRecursion_ne_ok_of_doubling`: so the elimination has no result, whatever the bound on rounds.
* `not_forall_eliminates`: reachable and productive nonterminals do not make it end.
-/
namespace FormalLanguages

namespace Grammar

variable {g : Grammar} {B P Q S prime : Symbol} {T : Symbol → Prop} {taken : NameSet}
  {alternatives : List Alternative} {i rounds : Nat}

/-! ## Alternatives that double -/

/-- The sequence begins with one of some symbols. -/
def LedBy (T : Symbol → Prop) (α : List Symbol) : Prop := ∃ a γ, α = a :: γ ∧ T a

theorem LedBy.concat {α β : Alternative} (h : LedBy T α) (hT : ∀ a, T a → a ≠ epsilon) :
    LedBy T (α.concat β) := by
  obtain ⟨a, γ, rfl, ha⟩ := h
  refine ⟨a, Alternative.body (γ ++ β), ?_, ha⟩
  rw [Alternative.concat_eq, List.cons_append, Alternative.body_cons_of_ne (hT a ha), if_neg (by simp)]

theorem concat_singletons (hP : P ≠ epsilon) (hQ : Q ≠ epsilon) : Alternative.concat [P] [Q] = [P, Q] :=
  Alternative.concat_of_epsilon_not_mem (by simpa using hP.symm) (by simpa using hQ.symm) (by simp)

/-- Alternatives of `P`: `ε`, and `P` behind `Q` or behind itself; all others begin with terminals. -/
structure Doubling (T : Symbol → Prop) (P Q : Symbol) (alternatives : List Alternative) : Prop where
  double : ∃ F, (F = Q ∨ F = P) ∧ [F, P] ∈ alternatives
  empty : [epsilon] ∈ alternatives
  cases : ∀ α ∈ alternatives, (∃ F, (F = Q ∨ F = P) ∧ α = [F, P]) ∨ α = [epsilon] ∨ LedBy T α

namespace Doubling

theorem mem_tails (hd : Doubling T P P alternatives) : [P] ∈ recursiveTails P alternatives := by
  obtain ⟨F, hF, hmem⟩ := hd.double
  obtain rfl := hF.elim id id
  exact mem_recursiveTails_iff.mpr ⟨by simp, hmem⟩

section
variable (hd : Doubling T P P alternatives) (hP : P ≠ epsilon) (hprime : prime ≠ epsilon)
include hd hprime

include hP in
/-- The new nonterminal derives `P` before itself, and `ε`: what comes behind `P` is `P` alone. -/
theorem doubling_prime (hPT : ¬ T P) : Doubling T prime P
    ((recursiveTails P alternatives).map (Alternative.concat · [prime]) ++ [[epsilon]]) where
  double := ⟨P, Or.inl rfl, List.mem_append_left _
    (List.mem_map.mpr ⟨[P], hd.mem_tails, concat_singletons hP hprime⟩)⟩
  empty := List.mem_append_right _ List.mem_cons_self
  cases α hα := by
    rw [List.mem_append, List.mem_map, List.mem_singleton] at hα
    rcases hα with ⟨β, hβ, rfl⟩ | rfl
    · obtain ⟨-, hβ⟩ := mem_recursiveTails_iff.mp hβ
      rcases hd.cases _ hβ with ⟨F, -, he⟩ | he | ⟨a, γ, he, ha⟩
      · rw [(List.cons.inj he).2]
        exact Or.inl ⟨P, Or.inl rfl, concat_singletons hP hprime⟩
      · exact absurd (List.cons.inj he).1 hP
      · exact absurd ha ((List.cons.inj he).1 ▸ hPT)
    · exact Or.inr (Or.inl rfl)

include hP in
/-- The new nonterminal takes the place of `ε` among the other alternatives. -/
theorem mem_others_prime : [prime] ∈ (otherAlternatives P alternatives).map (Alternative.concat · [prime]) := by
  refine List.mem_map.mpr ⟨[epsilon], mem_otherAlternatives_iff.mpr ⟨hd.empty, by simpa using hP.symm⟩, ?_⟩
  exact Alternative.concat_epsilon (by simpa using hprime.symm) (by simp)

/-- In all others a terminal still comes first. -/
theorem cases_of_mem_others (hT : ∀ a, T a → a ≠ epsilon) {δ : Alternative}
    (hδ : δ ∈ (otherAlternatives P alternatives).map (Alternative.concat · [prime])) :
    δ = [prime] ∨ LedBy T δ := by
  obtain ⟨γ, hγ, rfl⟩ := List.mem_map.mp hδ
  obtain ⟨hγ, hhead⟩ := mem_otherAlternatives_iff.mp hγ
  rcases hd.cases γ hγ with ⟨F, hF, rfl⟩ | rfl | hled
  · exact absurd (congrArg some (hF.elim id id)) hhead
  · exact Or.inl (Alternative.concat_epsilon (by simpa using hprime.symm) (by simp))
  · exact Or.inr (hled.concat hT)

end

end Doubling

/-! ## The run -/

/-- Where the run stands: the last nonterminal waits. In front of it is itself, or the one that gave way to it. -/
structure Breeding (T : Symbol → Prop) (P Q : Symbol) (g : Grammar) (taken : NameSet) (i : Nat) : Prop where
  workable : Workable g taken
  forward : g.HeadsForward (g.nonterminals.take i)
  terminal : ∀ a, T a → a ∈ taken ∧ a ∉ g.nonterminals ∧ a ≠ epsilon
  single : ∀ A ∈ g.nonterminals.take i, ∀ α ∈ g.alternatives A, LedBy T α ∨ ∃ B, α = [B]
  last : g.nonterminals[i]? = some P
  length : g.nonterminals.length = i + 1
  doubling : Doubling T P Q (g.alternatives P)
  front : Q = P ∨ Q ∈ g.nonterminals.take i ∧ [P] ∈ g.alternatives Q ∧ ∀ δ ∈ g.alternatives Q, δ = [P] ∨ LedBy T δ

namespace Breeding

theorem exists_descendsIn (h : Breeding T P Q g taken i) : ∃ rank, g.DescendsIn (g.nonterminals.take i) rank := by
  refine h.forward.exists_descendsIn fun C hC D hf => ?_
  -- nothing is hidden: what begins with a terminal does not vanish there, and what is single hides nothing
  obtain ⟨-, before, after, hne, hα, hv⟩ := hf
  obtain ⟨s, before, rfl⟩ := List.exists_cons_of_ne_nil hne
  rcases h.single C hC _ hα with ⟨a, γ, he, ha⟩ | ⟨B, he⟩
  · obtain ⟨rfl, -⟩ := List.cons.inj he
    obtain ⟨-, hn, hε⟩ := h.terminal s ha
    exact absurd (mem_nonterminals_of_yields_nil hε (yields_cons_nil_iff.mp hv).1) hn
  · exact absurd (List.cons.inj he).2 (by simp)

theorem not_mem_of_settle (h : Breeding T P Q g taken i)
    (hs : g.settle (g.nonterminals.take i) rounds (g.alternatives P) = .ok alternatives) :
    ∀ α ∈ alternatives, ∀ s ∈ α.head?, s ∉ g.nonterminals.take i := by
  obtain ⟨rank, hd⟩ := h.exists_descendsIn
  exact hd.not_mem_of_settle h.workable.tidy.canonical (fun B hB => List.mem_of_mem_take hB) hs

/-- What replaces the one in front puts the last nonterminal in its place. -/
theorem doubling_substitute (h : Breeding T P Q g taken i) (hB : B ∈ g.nonterminals.take i)
    (hd : Doubling T P Q alternatives) : Doubling T P Q (substitute B (g.alternatives B) alternatives) := by
  obtain ⟨hBn, hBP⟩ := mem_take_of_getElem? h.last B hB
  have hPε : P ≠ epsilon := h.workable.tidy.canonical.ne_epsilon (List.mem_of_getElem? h.last)
  have hBε : B ≠ epsilon := h.workable.tidy.canonical.ne_epsilon hBn
  have hconcat := concat_singletons hPε hPε
  refine ⟨?_, ?_, fun α hα => ?_⟩
  · obtain ⟨F, hF, hmem⟩ := hd.double
    by_cases hFB : F = B
    · subst hFB
      obtain ⟨-, hP, -⟩ := h.front.resolve_left fun he => hBP (hF.elim (· ▸ he) id)
      obtain rfl := hF.resolve_right hBP
      exact ⟨P, Or.inr rfl, mem_substitute_iff.mpr (Or.inr ⟨[P], [P], hmem, hP, hconcat.symm⟩)⟩
    · exact ⟨F, hF, mem_substitute_iff.mpr (Or.inl ⟨hmem, by simpa using hFB⟩)⟩
  · exact mem_substitute_iff.mpr (Or.inl ⟨hd.empty, by simpa using hBε.symm⟩)
  · rcases mem_substitute_iff.mp hα with ⟨hα, -⟩ | ⟨γ, δ, hγ, hδ, rfl⟩
    · exact hd.cases α hα
    · rcases hd.cases _ hγ with ⟨F, hF, he⟩ | he | ⟨a, γ', he, ha⟩
      · obtain ⟨rfl, rfl⟩ := List.cons.inj he
        obtain rfl := hF.resolve_right hBP
        obtain ⟨-, -, hall⟩ := h.front.resolve_left hBP
        rcases hall δ hδ with rfl | hled
        · exact Or.inl ⟨P, Or.inr rfl, hconcat⟩
        · exact Or.inr (Or.inr (hled.concat fun a ha => (h.terminal a ha).2.2))
      · exact absurd (List.cons.inj he).1 hBε
      · exact absurd hBn ((List.cons.inj he).1 ▸ (h.terminal a ha).2.1)

/-- When they have settled, the last nonterminal is in front of itself. -/
theorem doubling_of_settle (h : Breeding T P Q g taken i)
    (hs : g.settle (g.nonterminals.take i) rounds (g.alternatives P) = .ok alternatives) :
    Doubling T P P alternatives := by
  have hheads := h.not_mem_of_settle hs
  obtain ⟨⟨F, hF, hmem⟩, hempty, hcases⟩ := settle_induction (P := Doubling T P Q)
    (fun B hB _ _ hd => h.doubling_substitute hB hd) hs h.doubling
  have hself : ∀ F, F = Q ∨ F = P → [F, P] ∈ alternatives → F = P := by
    intro F hF hmem
    rcases hF with rfl | rfl
    · exact h.front.resolve_right fun hQ => hheads _ hmem F rfl hQ.1
    · rfl
  refine ⟨⟨F, Or.inr (hself F hF hmem), hmem⟩, hempty, fun α hα => (hcases α hα).imp_left fun ⟨F, hF, he⟩ => ?_⟩
  exact ⟨F, Or.inr (hself F hF (he ▸ hα)), he⟩

/-- A turn breeds one more nonterminal, and leaves it where the last one stood. -/
theorem removeImmediate (h : Breeding T P Q g taken i)
    (hs : g.settle (g.nonterminals.take i) rounds (g.alternatives P) = .ok alternatives) :
    ∃ prime, Breeding T prime P (g.removeImmediate taken P alternatives).1
      (g.removeImmediate taken P alternatives).2 (i + 1) := by
  have hw := h.workable
  have hmem := List.mem_of_getElem? h.last
  have hd := h.doubling_of_settle hs
  have hT : ∀ a, T a → a ≠ epsilon := fun a ha => (h.terminal a ha).2.2
  have hPε : P ≠ epsilon := hw.tidy.canonical.ne_epsilon hmem
  have hnext := (hw.removeImmediate h.last hs).1
  have htake := hw.take_removeImmediate h.last hs
  have hforward := h.forward.removeImmediate hw h.last hs (h.not_mem_of_settle hs)
  rw [removeImmediate_of_tails g taken (List.ne_nil_of_mem hd.mem_tails) (hw.otherAlternatives_ne_nil h.last hs)]
    at hnext htake hforward ⊢
  have hp := prime_not_mem P taken
  have hpε := prime_ne_epsilon P taken
  generalize freshName P "'" taken.toList "" = prime at *
  have hpn : prime ∉ g.nonterminals := fun hn => hp (hw.named _ hn)
  have hn := nonterminals_splitOff alternatives hmem hpn
  have hatP : (g.splitOff P prime alternatives).alternatives P =
      (otherAlternatives P alternatives).map (Alternative.concat · [prime]) := by
    rw [alternatives_splitOff, if_neg (ne_of_mem_of_not_mem hmem hpn), if_pos rfl]
  refine ⟨prime, hnext, hforward, fun a ha => ?_, fun A hA α hα => ?_, ?_, ?_, ?_,
    Or.inr ⟨htake ▸ List.mem_append_right _ List.mem_cons_self, hatP ▸ hd.mem_others_prime hPε hpε,
      fun δ hδ => hd.cases_of_mem_others hpε hT (hatP ▸ hδ)⟩⟩
  · obtain ⟨hat, han, hε⟩ := h.terminal a ha
    exact ⟨by simp [hat], by simp [hn, han, ne_of_mem_of_not_mem hat hp], hε⟩
  · rw [htake, List.mem_append, List.mem_singleton] at hA
    rcases hA with hA | rfl
    · obtain ⟨hAn, hAP⟩ := mem_take_of_getElem? h.last A hA
      rw [alternatives_splitOff, if_neg (ne_of_mem_of_not_mem hAn hpn), if_neg hAP] at hα
      exact h.single A hA α hα
    · exact (hd.cases_of_mem_others hpε hT (hatP ▸ hα)).symm.imp_right fun he => ⟨prime, he⟩
  · rw [hn, ← h.length, List.getElem?_concat_length]
  · rw [hn, List.length_append, h.length, List.length_singleton]
  · rw [alternatives_splitOff, if_pos rfl]
    exact hd.doubling_prime hPε hpε fun hPT => (h.terminal P hPT).2.1 hmem

end Breeding

/-! ## The result -/

/-- The elimination has no result, whatever the bound on rounds, for a nonterminal that doubles itself and vanishes
where all its other alternatives begin with terminals. -/
theorem eliminateLeftRecursion_ne_ok_of_doubling (hg : g.Canonical) (hn : g.nonterminals = [S])
    (hdouble : [S, S] ∈ g.alternatives S) (hempty : [epsilon] ∈ g.alternatives S)
    (hothers : ∀ α ∈ g.alternatives S, α = [S, S] ∨ α = [epsilon] ∨ ∃ a γ, α = a :: γ ∧ a ≠ S ∧ a ≠ epsilon)
    (rounds : Nat) (r : Grammar) : g.eliminateLeftRecursion rounds ≠ .ok r := by
  have hS : S ∈ g.nonterminals := by simp [hn]
  have hp : ∀ A ∈ g.nonterminals, ∃ w, w ∈ g.language A := fun A hA => by
    obtain rfl : A = S := by simpa [hn] using hA
    exact ⟨[], (mem_language_nil_iff hg hA).mpr (.of_alternative hempty (.vanish .nil))⟩
  have hstart : Breeding (fun a => a ∈ g.symbols ∧ a ≠ S ∧ a ≠ epsilon) S S g g.symbols 0 :=
    { workable := workable_symbols hg hp
      forward := fun A hA => by simp at hA
      terminal := fun a ⟨ha, haS, hε⟩ => ⟨ha, by simpa [hn] using haS, hε⟩
      single := fun A hA => by simp at hA
      last := by rw [hn]; rfl
      length := by rw [hn]; rfl
      doubling := ⟨⟨S, Or.inl rfl, hdouble⟩, hempty, fun α hα => ?_⟩
      front := Or.inl rfl }
  · exact eliminateFrom_ne_ok (S := fun g taken i => ∃ P Q, Breeding _ P Q g taken i)
      (fun ⟨P, Q, h⟩ => ⟨P, h.last, fun _ hs => (h.removeImmediate hs).imp fun _ h => ⟨P, h⟩⟩)
      ⟨S, S, hstart⟩ rounds r
  · rcases hothers α hα with rfl | rfl | ⟨a, γ, rfl, haS, hε⟩
    · exact Or.inl ⟨S, Or.inl rfl, rfl⟩
    · exact Or.inr (Or.inl rfl)
    · have ha : a ∈ g.symbols := mem_symbols_of_mem_alternatives hα List.mem_cons_self
      exact Or.inr (Or.inr ⟨a, γ, rfl, ha, haS, hε⟩)

/-- A nonterminal that doubles itself and vanishes. -/
def doubled : Grammar := .ofList [("S", [["S", "S"], ["ε"]])]

/-- That every nonterminal is reachable and derives some word is not enough for the elimination to come to an end. -/
theorem not_forall_eliminates : ¬ ∀ (g : Grammar) (start : Symbol), g.Canonical →
    g.nonterminals.head? = some start → (∀ A ∈ g.nonterminals, A ∈ g.reachableFrom start) →
    (∀ A ∈ g.nonterminals, ∃ w, w ∈ g.language A) → ∃ rounds r, g.eliminateLeftRecursion rounds = .ok r := by
  intro h
  have hg : doubled.Canonical := by decide
  have hproductive : ∀ A ∈ doubled.nonterminals, A ∈ doubled.productive [] := by decide +kernel
  have hreachable : ∀ A ∈ doubled.nonterminals, A ∈ doubled.reachableFrom "S" := by decide +kernel
  have hcases : ∀ α ∈ doubled.alternatives "S", α = ["S", "S"] ∨ α = ["ε"] := by decide
  obtain ⟨rounds, r, hr⟩ := h doubled "S" hg rfl hreachable fun A hA => exists_mem_language hg (hproductive A hA)
  exact eliminateLeftRecursion_ne_ok_of_doubling (S := "S") hg rfl (by decide) (by decide)
    (fun α hα => (hcases α hα).imp_right Or.inl) rounds r hr

end Grammar

end FormalLanguages
