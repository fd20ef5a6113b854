import FormalLanguages.Grammar.LeftRecursion
/-!
# What the left-recursive nonterminals are

Left recursion is a cycle of fronts. A grammar has none when the nonterminals can be ranked so that
the fronts of a nonterminal rank above it.

Results:
* `mem_leftRecursive_iff`: a nonterminal is listed exactly if a path of fronts leads back to it.
* `leftRecursive_eq_nil`: nothing is left recursive where fronts rank above their nonterminal.
* `not_mem_erasable`: what stays in every alternative is not erased.
-/
namespace FormalLanguages

/-- A path climbs where each edge climbs. -/
theorem Reaches.le_rank {α : Type} {next : α → List α} {rank : α → Nat}
    (h : ∀ a, ∀ b ∈ next a, rank a < rank b) {a b : α} (hr : Reaches next a b) : rank a ≤ rank b := by
  induction hr with
  | refl => exact Nat.le_refl _
  | step _ hc ih => exact Nat.le_of_lt (Nat.lt_of_le_of_lt ih (h _ _ hc))

namespace Grammar

variable {g : Grammar} {A B : Symbol}

theorem frontsOf_cons_of_terminal {erasable : List Symbol} {s : Symbol} (hs : s ∉ g.nonterminals)
    (α : List Symbol) : g.frontsOf erasable (s :: α) = [] :=
  if_neg fun h => hs (isNonterminal_iff.mp h)

theorem frontsOf_cons_of_not_erasable {erasable : List Symbol} {s : Symbol} (hs : s ∈ g.nonterminals)
    (he : s ∉ erasable) (α : List Symbol) : g.frontsOf erasable (s :: α) = [s] := by
  rw [frontsOf, if_pos (isNonterminal_iff.mpr hs), if_neg he]

theorem frontsOf_subset {erasable α : List Symbol} : g.frontsOf erasable α ⊆ α := by
  induction α with
  | nil => exact fun _ h => h
  | cons s α ih =>
    unfold frontsOf
    split
    · split
      · exact List.cons_subset_cons s ih
      · exact List.cons_subset_cons s (List.nil_subset α)
    · exact List.nil_subset _

theorem mem_fronts_iff {erasable : List Symbol} :
    B ∈ g.fronts erasable A ↔ ∃ α ∈ g.alternatives A, B ∈ g.frontsOf erasable α :=
  List.mem_flatMap

theorem mem_occurrences_of_mem_fronts {erasable : List Symbol} (h : B ∈ g.fronts erasable A) :
    B ∈ g.occurrences := by
  obtain ⟨α, hα, hB⟩ := mem_fronts_iff.mp h
  exact mem_occurrences_iff.mpr ⟨A, α, hα, frontsOf_subset hB⟩

/-- A nonterminal is listed exactly if a path of fronts leads back to it. -/
theorem mem_leftRecursive_iff : A ∈ g.leftRecursive ↔ A ∈ g.nonterminals ∧
    ∃ B ∈ g.fronts g.erasable A, Reaches (g.fronts g.erasable) B A := by
  rw [leftRecursive, List.mem_filter, decide_eq_true_eq,
    mem_reachable_iff g.occurrences (fun _ _ _ => mem_occurrences_of_mem_fronts)
      (fun _ => mem_occurrences_of_mem_fronts) (Nat.le_succ _)]

/-- Nothing is left recursive where fronts rank above their nonterminal. -/
theorem leftRecursive_eq_nil (rank : Symbol → Nat)
    (h : ∀ A, ∀ B ∈ g.fronts g.erasable A, rank A < rank B) : g.leftRecursive = [] := by
  refine List.eq_nil_iff_forall_not_mem.mpr fun A hA => ?_
  obtain ⟨-, B, hB, hr⟩ := mem_leftRecursive_iff.mp hA
  have hlt := h A B hB
  have hle := hr.le_rank h
  omega

/-- Where each alternative of certain symbols has such a symbol, none of them is erased. -/
theorem not_mem_erasable {P : Symbol → Prop}
    (h : ∀ A, P A → ∀ α ∈ g.alternatives A, ∃ s ∈ α, s ≠ epsilon ∧ P s) (hA : P A) :
    A ∉ g.erasable := by
  rw [erasable, mem_consequences_iff]
  intro hf
  induction hf with
  | rule hr _ ih =>
    obtain ⟨⟨B, α⟩, hp, rfl⟩ := List.mem_map.mp hr
    obtain ⟨s, hs, he, hP⟩ := h B hA α (mem_productions_iff.mp hp)
    exact ih s (List.mem_filter.mpr ⟨hs, by simpa using he⟩) hP

end Grammar

end FormalLanguages
