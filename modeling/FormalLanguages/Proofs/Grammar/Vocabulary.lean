import FormalLanguages.Proofs.Grammar.FactoringRun
/-!
# The names and the symbols of a grammar

The transformations write no symbol that the grammar does not have, apart from `ε` and the names of new nonterminals,
and these begin as the name of an old one. So what holds of all names and of all symbols of a grammar still holds after
the transformation, if it holds of `ε` and goes over to the new names.

Results:
* `MadeOf.insert`, `MadeOf.of_settle`: the rewrites of alternatives.
* `MadeOf.removeImmediate`, `MadeOf.extracted`: one step of each transformation.
* `MadeOf.eliminateLeftRecursion`, `MadeOf.leftFactor`: whole runs.
-/
namespace FormalLanguages.Grammar

variable {N S : Symbol → Prop} {g r : Grammar} {A s t : Symbol} {αs alternatives : List Alternative}

/-- All nonterminals have the first property, and all symbols of alternatives the second. -/
structure MadeOf (N S : Symbol → Prop) (g : Grammar) : Prop where
  names : ∀ A ∈ g.nonterminals, N A
  symbols : ∀ A, ∀ α ∈ g.alternatives A, ∀ s ∈ α, S s

namespace MadeOf

theorem of_mem_occurrences (hg : MadeOf N S g) (hs : s ∈ g.occurrences) : S s :=
  have ⟨A, α, hα, hs⟩ := mem_occurrences_iff.mp hs
  hg.symbols A α hα s hs

theorem insert (hg : MadeOf N S g) (hA : N A) (h : ∀ α ∈ alternatives, ∀ s ∈ α, S s) :
    MadeOf N S (g.insert A alternatives) where
  names _ hB := (mem_nonterminals_insert.mp hB).elim (· ▸ hA) (hg.names _)
  symbols := forall_alternatives_insert.mpr ⟨h, fun C _ => hg.symbols C⟩

/-! ## Elimination of left recursion -/

theorem forall_mem_concat {α β : Alternative} (hε : S epsilon) (hα : ∀ s ∈ α, S s) (hβ : ∀ s ∈ β, S s) :
    ∀ s ∈ α.concat β, S s := by
  intro s hs
  rcases Alternative.mem_concat hs with rfl | hs | hs
  · exact hε
  · exact hα s hs
  · exact hβ s hs

theorem of_settle (hg : MadeOf N S g) (hε : S epsilon) {earlier : List Symbol} {n : Nat}
    (h : g.settle earlier n (g.alternatives A) = .ok alternatives) : ∀ α ∈ alternatives, ∀ s ∈ α, S s := by
  refine settle_induction (P := fun as => ∀ α ∈ as, ∀ s ∈ α, S s) (fun B _ as _ has β hβ => ?_) h (hg.symbols A)
  rcases mem_substitute_iff.mp hβ with ⟨hβ, -⟩ | ⟨γ, δ, hγ, hδ, rfl⟩
  · exact has β hβ
  · exact forall_mem_concat hε (hg.symbols B δ hδ) fun s hs => has _ hγ s (List.mem_cons_of_mem _ hs)

/-- A nonterminal that gets a primed one beside it is a symbol of an alternative. -/
theorem removeImmediate (hg : MadeOf N S g) (hε : S epsilon) (hA : N A) {taken : NameSet}
    (h : ∀ α ∈ alternatives, ∀ s ∈ α, S s)
    (hprime : N A → S A → N (freshName A "'" taken.toList "") ∧ S (freshName A "'" taken.toList "")) :
    MadeOf N S (g.removeImmediate taken A alternatives).1 := by
  by_cases htails : recursiveTails A alternatives = []
  · obtain ⟨kept, hkept, hsub, -⟩ := exists_removeImmediate_of_no_tails g taken htails
    rw [hkept]
    exact hg.insert hA fun α hα => h α (hsub hα)
  · obtain ⟨β, hβ⟩ := List.exists_mem_of_ne_nil _ htails
    obtain ⟨hN, hS⟩ := hprime hA (h _ (mem_recursiveTails_iff.mp hβ).2 A List.mem_cons_self)
    have hlast : ∀ s ∈ [freshName A "'" taken.toList ""], S s := by simpa using hS
    rw [Grammar.removeImmediate, if_neg (by simpa using htails)]
    refine (hg.insert hA fun α hα => ?_).insert hN fun α hα => ?_
    · split at hα
      · exact List.mem_singleton.mp hα ▸ hlast
      · obtain ⟨β, hβ, rfl⟩ := List.mem_map.mp hα
        exact forall_mem_concat hε (h β (mem_otherAlternatives_iff.mp hβ).1) hlast
    · rcases List.mem_append.mp hα with hα | hα
      · obtain ⟨β, hβ, rfl⟩ := List.mem_map.mp hα
        refine forall_mem_concat hε (fun s hs => ?_) hlast
        exact h _ (mem_recursiveTails_iff.mp hβ).2 s (List.mem_cons_of_mem _ hs)
      · rw [List.mem_singleton.mp hα]
        simpa using hε

/-- What holds of all names and symbols, of `ε` and of primed names holds after the elimination. -/
theorem eliminateLeftRecursion (hg : MadeOf N S g) (hε : S epsilon)
    (hprime : ∀ A taken, N A → S A → N (freshName A "'" taken "") ∧ S (freshName A "'" taken ""))
    {rounds : Nat} (h : g.eliminateLeftRecursion rounds = .ok r) : MadeOf N S r := by
  obtain ⟨-, hr⟩ := eliminateFrom_induction (P := fun k _ => MadeOf N S k)
    (fun i k taken A as hk hA hs _ => hk.removeImmediate hε (hk.names A (List.mem_of_getElem? hA))
      (hk.of_settle hε hs) (hprime A taken.toList)) h hg
  exact hr

/-! ## Left factoring -/

/-- An extraction writes symbols of the alternatives that it merges, `ε` and the new nonterminal. -/
theorem extracted (hg : MadeOf N S g) (hε : S epsilon) (hA : N A) {new : Symbol} (hN : N new) (hS : S new) :
    MadeOf N S (g.extracted A s new) := by
  refine (hg.insert hA fun α hα t ht => ?_).insert hN fun α hα t ht => ?_
  · rcases mem_of_mem_mergeAlternatives hα with rfl | hα
    · rcases List.mem_append.mp ht with ht | ht
      · obtain ⟨β, hβ, ht⟩ := exists_mem_of_mem_commonPrefix ht
        exact hg.symbols A β (mem_sharers_iff.mp hβ).1 t ht
      · exact List.mem_singleton.mp ht ▸ hS
    · exact hg.symbols A α hα t ht
  · rcases of_mem_tail hα ht with rfl | ⟨β, hβ, ht⟩
    · exact hε
    · exact hg.symbols A β hβ t ht

/-- What holds of all names and symbols, of `ε` and of lengthened names holds after factoring. -/
theorem leftFactor (hg : MadeOf N S g) (hfilled : g.Filled) (hε : S epsilon)
    (hfact : ∀ A taken, N A → N (freshName A "_fact" taken "_") ∧ S (freshName A "_fact" taken "_"))
    (h : g.leftFactor = .ok r) : MadeOf N S r := by
  refine factorFrom_induction (fun k taken A s hk hA => ?_) hfilled h hg
  obtain ⟨hN, hS⟩ := hfact A taken.toList (hk.names A hA)
  exact hk.extracted hε (hk.names A hA) hN hS

end MadeOf

end FormalLanguages.Grammar
