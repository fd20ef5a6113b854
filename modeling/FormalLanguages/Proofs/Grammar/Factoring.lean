import FormalLanguages.Grammar.Factoring
import FormalLanguages.Proofs.Grammar.Elimination
import FormalLanguages.Proofs.Grouping
/-!
# The steps of left factoring

One extraction merges the alternatives of a nonterminal that begin with some symbol. What they all
begin with stays, and a new nonterminal derives what they go on with. The symbols of the common start are
written fewer times than before, no other symbol that was there is written more often, and the new
nonterminal is written once. In a canonical grammar each merged alternative is the common start with an
alternative of the new nonterminal after it.

Results:
* `Mergeable.mem_alternatives_cases`: the alternatives after an extraction.
* `Mergeable.isCanonical_extracted`: canonical alternatives remain so.
* `Mergeable.countP_occurrences`: how often symbols are written before and after.
* `Mergeable.count_new`, `Mergeable.count_ne_one`: the new nonterminal is written once, and alternatives do not
  begin with a symbol that is.
* `Extractable.mem_merged_iff`: the merged alternatives, from the new nonterminal.
-/
namespace FormalLanguages.Grammar

variable {s t : Symbol} {α β γ m : Alternative} {αs : List Alternative}

/-! ## Common starts -/

theorem isPrefix_commonStart : ∀ α β : List Symbol, commonStart α β <+: α ∧ commonStart α β <+: β
  | a :: as, b :: bs => by
    unfold commonStart
    split
    · next h =>
      subst h
      exact (isPrefix_commonStart as bs).imp (List.prefix_cons_inj a).mpr (List.prefix_cons_inj a).mpr
    · exact ⟨List.nil_prefix, List.nil_prefix⟩
  | [], _ => ⟨List.nil_prefix, List.nil_prefix⟩
  | _ :: _, [] => ⟨List.nil_prefix, List.nil_prefix⟩

theorem head?_commonStart (hα : α.head? = some s) (hβ : β.head? = some s) :
    (commonStart α β).head? = some s := by
  obtain ⟨α, rfl⟩ := List.head?_eq_some_iff.mp hα
  obtain ⟨β, rfl⟩ := List.head?_eq_some_iff.mp hβ
  simp [commonStart]

theorem isPrefix_foldl_commonStart (αs : List Alternative) (α : Alternative) :
    αs.foldl commonStart α <+: α ∧ ∀ β ∈ αs, αs.foldl commonStart α <+: β := by
  induction αs generalizing α with
  | nil => exact ⟨List.prefix_rfl, fun _ h => nomatch h⟩
  | cons γ αs ih =>
    obtain ⟨hstart, hothers⟩ := ih (commonStart α γ)
    obtain ⟨hα, hγ⟩ := isPrefix_commonStart α γ
    exact ⟨hstart.trans hα, List.forall_mem_cons.mpr ⟨hstart.trans hγ, hothers⟩⟩

theorem isPrefix_commonPrefix (h : α ∈ αs) : commonPrefix αs <+: α := by
  cases αs with
  | nil => cases h
  | cons β αs =>
    obtain ⟨hβ, hαs⟩ := isPrefix_foldl_commonStart αs β
    rcases List.mem_cons.mp h with rfl | h
    · exact hβ
    · exact hαs α h

theorem exists_mem_of_mem_commonPrefix (ht : t ∈ commonPrefix αs) : ∃ α ∈ αs, t ∈ α := by
  cases αs with
  | nil => cases ht
  | cons α αs => exact ⟨α, List.mem_cons_self, (isPrefix_commonPrefix List.mem_cons_self).mem ht⟩

theorem head?_commonPrefix (hne : αs ≠ []) (h : ∀ α ∈ αs, α.head? = some s) :
    (commonPrefix αs).head? = some s := by
  cases αs with
  | nil => exact absurd rfl hne
  | cons α αs =>
    obtain ⟨hα, hαs⟩ := List.forall_mem_cons.mp h
    exact List.foldlRecOn (motive := fun β : Alternative => β.head? = some s) αs commonStart hα
      fun β hβ γ hγ => head?_commonStart hβ (hαs γ hγ)

/-! ## Remainders -/

theorem remainder_append (β γ : List Symbol) :
    remainder β.length (β ++ γ) = if γ = [] then [epsilon] else γ := by
  unfold remainder
  rw [List.drop_left]
  cases γ <;> rfl

theorem isCanonical_remainder (n : Nat) (h : epsilon ∉ α) : (remainder n α).IsCanonical := by
  unfold remainder
  split
  · exact Or.inl rfl
  · next hne => exact Or.inr ⟨hne, fun hε => h (List.mem_of_mem_drop hε)⟩

theorem mem_remainder {n : Nat} (h : t ∈ remainder n α) : t = epsilon ∨ t ∈ α := by
  unfold remainder at h
  split at h
  · exact Or.inl (List.mem_singleton.mp h)
  · exact Or.inr (List.mem_of_mem_drop h)

/-- What an alternative begins and goes on with make it up. -/
theorem concat_remainder (hβ : β ≠ []) (hpre : β <+: α) (hα : epsilon ∉ α) :
    β.concat (remainder β.length α) = α := by
  obtain ⟨γ, rfl⟩ := hpre
  have hεβ : epsilon ∉ β := fun h => hα (List.mem_append_left _ h)
  rw [remainder_append, Alternative.concat_eq]
  split
  · next hγ => simp [hγ, Alternative.body_eq_self hεβ, hβ]
  · rw [Alternative.body_eq_self hα, if_neg (by simp [hβ])]

/-! ## Merging -/

theorem mergeAlternatives_perm (h : ∃ α ∈ αs, α.head? = some s) :
    (mergeAlternatives s m αs).Perm (m :: αs.filter fun α => α.head? ≠ some s) := by
  induction αs with
  | nil => obtain ⟨_, hα, -⟩ := h; cases hα
  | cons α αs ih =>
    unfold mergeAlternatives
    split
    · next hα => rw [List.filter_cons_of_neg (by simpa using hα)]
    · next hα =>
      rw [List.filter_cons_of_pos (by simpa using hα)]
      obtain ⟨β, hβ, hs⟩ := h
      have hβ : β ∈ αs := (List.mem_cons.mp hβ).resolve_left fun he => hα (he ▸ hs)
      exact ((ih ⟨β, hβ, hs⟩).cons α).trans (.swap m α _)

/-! ## Occurrences -/

section
variable {g : Grammar} {A new : Symbol} {p : Symbol → Bool}

/-- The occurrences of symbols, one nonterminal after the other. -/
theorem occurrences_eq (g : Grammar) :
    g.occurrences = g.nonterminals.flatMap fun A => (g.alternatives A).flatten := by
  rw [occurrences, productions, OrderedMap.entries_eq g [], List.flatMap_map, List.flatMap_assoc]
  refine List.flatMap_congr fun A _ => ?_
  rw [List.flatMap_map, ← List.flatMap_id]
  rfl

theorem countP_occurrences_insert_of_mem (hA : A ∈ g.nonterminals) (αs : List Alternative) :
    (occurrences (g.insert A αs)).countP p + (g.alternatives A).flatten.countP p =
      g.occurrences.countP p + αs.flatten.countP p := by
  obtain ⟨before, after, hkeys⟩ := List.append_of_mem hA
  have hnodup : (before ++ A :: after).Nodup := hkeys ▸ g.distinct
  have hne : ∀ B, B ∈ before ∨ B ∈ after → B ≠ A := by
    rintro B (hB | hB) rfl
    · exact List.disjoint_of_nodup_append hnodup hB List.mem_cons_self
    · exact (List.nodup_cons.mp (List.nodup_append.mp hnodup).2.1).1 hB
  have hsame : ∀ Bs : List Symbol, (∀ B ∈ Bs, B ≠ A) →
      (Bs.flatMap fun B => (Grammar.alternatives (g.insert A αs) B).flatten) =
        Bs.flatMap fun B => (g.alternatives B).flatten := fun Bs hBs =>
    List.flatMap_congr fun B hB => by rw [alternatives_insert, if_neg (hBs B hB)]
  rw [occurrences_eq, occurrences_eq, nonterminals_insert_of_mem hA, hkeys]
  simp only [List.flatMap_append, List.flatMap_cons, List.countP_append]
  rw [hsame before fun B hB => hne B (Or.inl hB), hsame after fun B hB => hne B (Or.inr hB),
    alternatives_insert, if_pos rfl]
  omega

theorem countP_occurrences_insert_of_not_mem (hA : A ∉ g.nonterminals) :
    (occurrences (g.insert A αs)).countP p = g.occurrences.countP p + αs.flatten.countP p := by
  have hsame : (g.nonterminals.flatMap fun B => (Grammar.alternatives (g.insert A αs) B).flatten) =
      g.nonterminals.flatMap fun B => (g.alternatives B).flatten :=
    List.flatMap_congr fun B hB => by
      rw [alternatives_insert, if_neg (ne_of_mem_of_not_mem hB hA)]
  rw [occurrences_eq, occurrences_eq, nonterminals_insert_of_not_mem hA, List.flatMap_append, hsame,
    List.countP_append, List.flatMap_singleton, alternatives_insert, if_pos rfl]

theorem countP_flatten_filter_le (p : Symbol → Bool) (q : Alternative → Bool)
    (αs : List Alternative) : (αs.filter q).flatten.countP p ≤ αs.flatten.countP p := by
  induction αs with
  | nil => simp
  | cons α αs ih =>
    by_cases hα : q α = true
    · rw [List.filter_cons_of_pos hα, List.flatten_cons, List.flatten_cons, List.countP_append,
        List.countP_append]
      exact Nat.add_le_add_left ih _
    · rw [List.filter_cons_of_neg hα, List.flatten_cons, List.countP_append]
      exact Nat.le_add_left_of_le ih

theorem countP_flatten_eraseDups_le (p : Symbol → Bool) : ∀ αs : List Alternative,
    αs.eraseDups.flatten.countP p ≤ αs.flatten.countP p
  | [] => by simp
  | α :: αs => by
    rw [List.eraseDups_cons, List.flatten_cons, List.flatten_cons, List.countP_append,
      List.countP_append]
    exact Nat.add_le_add_left ((countP_flatten_eraseDups_le p _).trans
      (countP_flatten_filter_le p _ αs)) _
  termination_by αs => αs.length
  decreasing_by exact Nat.lt_succ_of_le (List.length_filter_le _ _)

end

/-! ## One extraction -/

/-- The alternatives that begin with a symbol. -/
def sharers (g : Grammar) (A s : Symbol) : List Alternative :=
  (g.alternatives A).filter fun α => α.head? = some s

/-- What these alternatives all begin with. -/
def sharedStart (g : Grammar) (A s : Symbol) : Alternative := commonPrefix (g.sharers A s)

/-- What they go on with. -/
def tails (g : Grammar) (A s : Symbol) : List Alternative :=
  ((g.sharers A s).map (remainder (g.sharedStart A s).length)).eraseDups

/-- The grammar in which `new` derives what the alternatives of `A` go on with that begin with `s`. -/
def extracted (g : Grammar) (A s new : Symbol) : Grammar :=
  (g.insert A (mergeAlternatives s (g.sharedStart A s ++ [new]) (g.alternatives A))).insert new
    (g.tails A s)

/-- Two alternatives of `A` begin with `s`, and `new` is not used. -/
structure Mergeable (g : Grammar) (A s new : Symbol) : Prop where
  mem : A ∈ g.nonterminals
  ne_epsilon : s ≠ epsilon
  two_le : 2 ≤ (g.sharers A s).length
  unused : new ∉ g.symbols
  new_ne_epsilon : new ≠ epsilon

/-- Alternatives that can be merged in a canonical grammar. -/
structure Extractable (g : Grammar) (A s new : Symbol) : Prop extends Mergeable g A s new where
  canonical : g.Canonical

variable {g h : Grammar} {A B C new : Symbol}

theorem mem_sharers_iff : α ∈ g.sharers A s ↔ α ∈ g.alternatives A ∧ α.head? = some s := by
  simp [sharers]

/-- The alternatives that are merged are the common start with something after it. -/
theorem exists_append_of_head? (hα : α ∈ g.alternatives A) (hs : α.head? = some s) :
    ∃ δ, g.sharedStart A s ++ δ = α :=
  isPrefix_commonPrefix (mem_sharers_iff.mpr ⟨hα, hs⟩)

theorem mem_tails_iff : γ ∈ g.tails A s ↔ ∃ α ∈ g.alternatives A, α.head? = some s ∧
    remainder (g.sharedStart A s).length α = γ := by
  simp only [tails, List.mem_eraseDups, List.mem_map, mem_sharers_iff, and_assoc]

/-- A tail comes after the common start in an alternative, or is `ε` for the common start alone. -/
theorem exists_append_of_mem_tails (hγ : γ ∈ g.tails A s) :
    ∃ δ, g.sharedStart A s ++ δ ∈ g.alternatives A ∧ γ = if δ = [] then [epsilon] else δ := by
  obtain ⟨α, hα, hs, rfl⟩ := mem_tails_iff.mp hγ
  obtain ⟨δ, rfl⟩ := exists_append_of_head? hα hs
  exact ⟨δ, hα, remainder_append _ δ⟩

theorem of_mem_tail (hγ : γ ∈ g.tails A s) (ht : t ∈ γ) :
    t = epsilon ∨ ∃ α ∈ g.alternatives A, t ∈ α := by
  obtain ⟨α, hα, -, rfl⟩ := mem_tails_iff.mp hγ
  exact (mem_remainder ht).imp_right fun ht => ⟨α, hα, ht⟩

theorem alternatives_extracted_new (g : Grammar) (A s new : Symbol) :
    (g.extracted A s new).alternatives new = g.tails A s := by
  rw [extracted, alternatives_insert, if_pos rfl]

theorem alternatives_extracted_of_ne (hA : C ≠ A) (hnew : C ≠ new) :
    (g.extracted A s new).alternatives C = g.alternatives C := by
  rw [extracted, alternatives_insert, if_neg hnew, alternatives_insert, if_neg hA]

namespace Mergeable

theorem not_mem_nonterminals (he : g.Mergeable A s new) : new ∉ g.nonterminals := fun h =>
  he.unused (mem_symbols_of_mem_nonterminals h)

theorem not_mem_alternative (he : g.Mergeable A s new) (hα : α ∈ g.alternatives C) : new ∉ α :=
  fun h => he.unused (mem_symbols_of_mem_alternatives hα h)

theorem ne (he : g.Mergeable A s new) : A ≠ new :=
  ne_of_mem_of_not_mem he.mem he.not_mem_nonterminals

theorem exists_sharer (he : g.Mergeable A s new) : ∃ α ∈ g.alternatives A, α.head? = some s := by
  obtain ⟨α, hα⟩ := List.exists_mem_of_length_pos (Nat.lt_of_lt_of_le Nat.zero_lt_two he.two_le)
  exact ⟨α, mem_sharers_iff.mp hα⟩

theorem head?_sharedStart (he : g.Mergeable A s new) : (g.sharedStart A s).head? = some s := by
  refine head?_commonPrefix (List.ne_nil_of_length_pos ?_) fun α hα => (mem_sharers_iff.mp hα).2
  exact Nat.lt_of_lt_of_le Nat.zero_lt_two he.two_le

theorem head?_sharedStart_append (he : g.Mergeable A s new) (δ : List Symbol) :
    (g.sharedStart A s ++ δ).head? = some s := by
  rw [List.head?_append, he.head?_sharedStart, Option.some_or]

theorem sharedStart_ne_nil (he : g.Mergeable A s new) : g.sharedStart A s ≠ [] := fun h => by
  simpa [h] using he.head?_sharedStart

theorem exists_mem_of_mem_sharedStart (he : g.Mergeable A s new) (ht : t ∈ g.sharedStart A s) :
    ∃ α ∈ g.alternatives A, α.head? = some s ∧ t ∈ α := by
  obtain ⟨α, hα, hs⟩ := he.exists_sharer
  obtain ⟨δ, rfl⟩ := exists_append_of_head? hα hs
  exact ⟨_, hα, hs, List.mem_append_left δ ht⟩

theorem new_not_mem_sharedStart (he : g.Mergeable A s new) : new ∉ g.sharedStart A s := fun h =>
  have ⟨_, hα, _, hnew⟩ := he.exists_mem_of_mem_sharedStart h
  he.not_mem_alternative hα hnew

theorem new_not_mem_tail (he : g.Mergeable A s new) (hγ : γ ∈ g.tails A s) : new ∉ γ := fun h => by
  rcases of_mem_tail hγ h with h | ⟨α, hα, h⟩
  · exact he.new_ne_epsilon h
  · exact he.not_mem_alternative hα h

theorem tails_ne_nil (he : g.Mergeable A s new) : g.tails A s ≠ [] := by
  obtain ⟨α, hα, hs⟩ := he.exists_sharer
  exact List.ne_nil_of_mem (mem_tails_iff.mpr ⟨α, hα, hs, rfl⟩)

/-! ### The grammar after it -/

theorem nonterminals_extracted (he : g.Mergeable A s new) :
    (g.extracted A s new).nonterminals = g.nonterminals ++ [new] := by
  have hnew := he.not_mem_nonterminals
  rw [extracted, nonterminals_insert_of_not_mem, nonterminals_insert_of_mem he.mem]
  rwa [nonterminals_insert_of_mem he.mem]

/-- The alternatives of the merged nonterminal, up to their order. -/
theorem perm_alternatives_self (he : g.Mergeable A s new) :
    ((g.extracted A s new).alternatives A).Perm
      ((g.sharedStart A s ++ [new]) :: (g.alternatives A).filter fun α => α.head? ≠ some s) := by
  rw [extracted, alternatives_insert, if_neg he.ne, alternatives_insert, if_pos rfl]
  exact mergeAlternatives_perm he.exists_sharer

theorem mem_alternatives_self_iff (he : g.Mergeable A s new) :
    α ∈ (g.extracted A s new).alternatives A ↔
      α = g.sharedStart A s ++ [new] ∨ α ∈ g.alternatives A ∧ α.head? ≠ some s := by
  rw [he.perm_alternatives_self.mem_iff]
  simp

/-- The alternatives after an extraction: those of the new nonterminal, the merged one, and those that
were there. -/
theorem mem_alternatives_cases (he : g.Mergeable A s new)
    (hα : α ∈ (g.extracted A s new).alternatives C) : C = new ∧ α ∈ g.tails A s ∨
      C = A ∧ α = g.sharedStart A s ++ [new] ∨ C ≠ new ∧ α ∈ g.alternatives C := by
  by_cases hnew : C = new
  · subst hnew
    exact Or.inl ⟨rfl, alternatives_extracted_new g A s C ▸ hα⟩
  by_cases hA : C = A
  · subst hA
    exact Or.inr ((he.mem_alternatives_self_iff.mp hα).imp (fun h => ⟨rfl, h⟩) fun h => ⟨hnew, h.1⟩)
  · rw [alternatives_extracted_of_ne hA hnew] at hα
    exact Or.inr (Or.inr ⟨hnew, hα⟩)

/-- An alternative that is not merged stays. -/
theorem mem_alternatives_extracted (he : g.Mergeable A s new) (hα : α ∈ g.alternatives C)
    (hs : C = A → α.head? ≠ some s) : α ∈ (g.extracted A s new).alternatives C := by
  by_cases hA : C = A
  · subst hA
    exact he.mem_alternatives_self_iff.mpr (Or.inr ⟨hα, hs rfl⟩)
  · rwa [alternatives_extracted_of_ne hA]
    exact ne_of_mem_of_not_mem (mem_nonterminals_of_mem_alternatives hα) he.not_mem_nonterminals

/-- The merged nonterminal and the new one have alternatives, and others have those that they had. -/
theorem alternatives_extracted_ne_nil (he : g.Mergeable A s new) (h : C ≠ new → g.alternatives C ≠ []) :
    (g.extracted A s new).alternatives C ≠ [] := by
  by_cases hnew : C = new
  · rw [hnew, alternatives_extracted_new]
    exact he.tails_ne_nil
  by_cases hA : C = A
  · subst hA
    exact List.ne_nil_of_mem (he.mem_alternatives_self_iff.mpr (Or.inl rfl))
  · rw [alternatives_extracted_of_ne hA hnew]
    exact h hnew

theorem mem_symbols_extracted (he : g.Mergeable A s new) (ht : t ∈ (g.extracted A s new).symbols) :
    t = epsilon ∨ t = new ∨ t ∈ g.symbols := by
  rcases mem_symbols_iff.mp ht with ht | ht
  · rw [he.nonterminals_extracted, List.mem_append, List.mem_singleton] at ht
    exact Or.inr (ht.symm.imp_right mem_symbols_of_mem_nonterminals)
  · obtain ⟨C, α, hα, ht⟩ := mem_occurrences_iff.mp ht
    rcases he.mem_alternatives_cases hα with ⟨-, hα⟩ | ⟨-, rfl⟩ | ⟨-, hα⟩
    · exact (of_mem_tail hα ht).imp_right fun ⟨_, hβ, ht⟩ => Or.inr (mem_symbols_of_mem_alternatives hβ ht)
    · rcases List.mem_append.mp ht with ht | ht
      · obtain ⟨_, hβ, -, ht⟩ := he.exists_mem_of_mem_sharedStart ht
        exact Or.inr (Or.inr (mem_symbols_of_mem_alternatives hβ ht))
      · exact Or.inr (Or.inl (List.mem_singleton.mp ht))
    · exact Or.inr (Or.inr (mem_symbols_of_mem_alternatives hα ht))

/-- What occurs before an extraction occurs after it. -/
theorem mem_occurrences_extracted (he : g.Mergeable A s new) (ht : t ∈ g.occurrences) :
    t ∈ (g.extracted A s new).occurrences := by
  obtain ⟨C, α, hα, ht⟩ := mem_occurrences_iff.mp ht
  by_cases hs : C = A ∧ α.head? = some s
  · obtain ⟨rfl, hs⟩ := hs
    obtain ⟨δ, rfl⟩ := exists_append_of_head? hα hs
    rcases List.mem_append.mp ht with ht | ht
    · exact mem_occurrences_iff.mpr
        ⟨C, _, he.mem_alternatives_self_iff.mpr (Or.inl rfl), List.mem_append_left _ ht⟩
    · have hδ : δ ∈ g.tails C s := mem_tails_iff.mpr
        ⟨_, hα, hs, by rw [remainder_append, if_neg (List.ne_nil_of_mem ht)]⟩
      exact mem_occurrences_iff.mpr ⟨new, δ, by rwa [alternatives_extracted_new], ht⟩
  · exact mem_occurrences_iff.mpr
      ⟨C, α, he.mem_alternatives_extracted hα fun hA hhead => hs ⟨hA, hhead⟩, ht⟩

/-! ### Canonical alternatives -/

section
variable (he : g.Mergeable A s new) (hc : ∀ α ∈ g.alternatives A, α.IsCanonical)
include he hc

theorem epsilon_not_mem_of_head? (hα : α ∈ g.alternatives A) (hs : α.head? = some s) : epsilon ∉ α := by
  rcases hc α hα with rfl | ⟨-, h⟩
  · exact absurd (by simpa using hs) he.ne_epsilon.symm
  · exact h

theorem epsilon_not_mem_sharedStart : epsilon ∉ g.sharedStart A s := fun hε =>
  have ⟨_, hα, hs, hmem⟩ := he.exists_mem_of_mem_sharedStart hε
  he.epsilon_not_mem_of_head? hc hα hs hmem

theorem isCanonical_of_mem_tails (hγ : γ ∈ g.tails A s) : γ.IsCanonical := by
  obtain ⟨α, hα, hs, rfl⟩ := mem_tails_iff.mp hγ
  exact isCanonical_remainder _ (he.epsilon_not_mem_of_head? hc hα hs)

end

/-- Canonical alternatives remain so. -/
theorem isCanonical_extracted (he : g.Mergeable A s new)
    (hc : ∀ C, ∀ α ∈ g.alternatives C, α.IsCanonical) :
    ∀ C, ∀ α ∈ (g.extracted A s new).alternatives C, α.IsCanonical := by
  intro C α hα
  rcases he.mem_alternatives_cases hα with ⟨-, hα⟩ | ⟨-, rfl⟩ | ⟨-, hα⟩
  · exact he.isCanonical_of_mem_tails (hc A) hα
  · refine Or.inr ⟨by simp, fun hε => ?_⟩
    rcases List.mem_append.mp hε with hε | hε
    · exact he.epsilon_not_mem_sharedStart (hc A) hε
    · exact he.new_ne_epsilon (List.mem_singleton.mp hε).symm
  · exact hc C α hα

/-! ### How often symbols are written -/

variable {p : Symbol → Bool}

/-- The merged alternatives are replaced by one, and what they go on with is written anew. -/
theorem countP_occurrences (he : g.Mergeable A s new) :
    (g.extracted A s new).occurrences.countP p + (g.sharers A s).flatten.countP p =
      g.occurrences.countP p + (g.sharedStart A s ++ [new]).countP p +
        (g.tails A s).flatten.countP p := by
  have hinsert := countP_occurrences_insert_of_mem (p := p) he.mem
    (mergeAlternatives s (g.sharedStart A s ++ [new]) (g.alternatives A))
  have hmerge := ((mergeAlternatives_perm (m := g.sharedStart A s ++ [new])
    he.exists_sharer).flatten).countP_eq p
  have hdivide := ((List.filter_append_perm (fun α : Alternative => decide (α.head? = some s))
    (g.alternatives A)).flatten).countP_eq p
  have hnew : new ∉ nonterminals
      (g.insert A (mergeAlternatives s (g.sharedStart A s ++ [new]) (g.alternatives A))) := by
    rw [nonterminals_insert_of_mem he.mem]
    exact he.not_mem_nonterminals
  rw [extracted, countP_occurrences_insert_of_not_mem hnew]
  simp only [List.flatten_append, List.flatten_cons, List.countP_append, decide_not] at hmerge hdivide
  simp only [sharers, List.countP_append] at *
  omega

theorem countP_sharers (hp : p epsilon = false) : (g.sharers A s).flatten.countP p =
    (g.sharers A s).length * (g.sharedStart A s).countP p +
      ((g.sharers A s).map (remainder (g.sharedStart A s).length)).flatten.countP p := by
  have hstart : ∀ α ∈ g.sharers A s, g.sharedStart A s <+: α := fun α hα => isPrefix_commonPrefix hα
  revert hstart
  generalize g.sharers A s = αs, g.sharedStart A s = β
  intro hstart
  induction αs with
  | nil => simp
  | cons α αs ih =>
    obtain ⟨⟨γ, rfl⟩, hαs⟩ := List.forall_mem_cons.mp hstart
    have hγ : (remainder β.length (β ++ γ)).countP p = γ.countP p := by
      rw [remainder_append]
      split
      · next h => simp [h, hp]
      · rfl
    rw [List.flatten_cons, List.countP_append, ih hαs, List.map_cons, List.flatten_cons,
      List.countP_append, List.countP_append, hγ, List.length_cons, Nat.succ_mul]
    omega

/-- The symbols of the common start are written fewer times, and others not more often. -/
theorem countP_occurrences_le (he : g.Mergeable A s new) (hε : p epsilon = false)
    (hnew : p new = false) : (g.extracted A s new).occurrences.countP p +
      (g.sharedStart A s).countP p ≤ g.occurrences.countP p := by
  have hcount := he.countP_occurrences (p := p)
  have htails : (g.tails A s).flatten.countP p ≤ _ := countP_flatten_eraseDups_le p _
  have hstart : (g.sharedStart A s ++ [new]).countP p = (g.sharedStart A s).countP p := by
    simp [hnew]
  have htwo := Nat.mul_le_mul_right ((g.sharedStart A s).countP p) he.two_le
  rw [countP_sharers hε] at hcount
  omega

theorem countP_sharedStart_pos (he : g.Mergeable A s new) (hp : p s = true) :
    0 < (g.sharedStart A s).countP p :=
  List.countP_pos_iff.mpr ⟨s, List.mem_of_mem_head? he.head?_sharedStart, hp⟩

/-- The new nonterminal is written once. -/
theorem count_new (he : g.Mergeable A s new) :
    (g.extracted A s new).occurrences.count new = 1 := by
  have hcount := he.countP_occurrences (p := (· == new))
  have hzero : ∀ {l : List Symbol}, new ∉ l → l.countP (· == new) = 0 := fun h =>
    List.count_eq_zero.mpr h
  have hsharers : new ∉ (g.sharers A s).flatten := fun h =>
    have ⟨_, hα, h⟩ := List.mem_flatten.mp h
    he.not_mem_alternative (mem_sharers_iff.mp hα).1 h
  have htails : new ∉ (g.tails A s).flatten := fun h =>
    have ⟨_, hα, h⟩ := List.mem_flatten.mp h
    he.new_not_mem_tail hα h
  have hold : new ∉ g.occurrences := fun h => he.unused (mem_symbols_iff.mpr (Or.inr h))
  rw [List.countP_append, hzero hsharers, hzero htails, hzero hold,
    hzero he.new_not_mem_sharedStart] at hcount
  simpa [List.count] using hcount

/-- What is written once stays so. -/
theorem count_eq_one (he : g.Mergeable A s new) (hε : t ≠ epsilon)
    (ht : g.occurrences.count t = 1) : (g.extracted A s new).occurrences.count t = 1 := by
  have hmem : t ∈ g.occurrences := List.count_pos_iff.mp (by omega)
  have hnew : new ≠ t := fun h => he.unused (mem_symbols_iff.mpr (Or.inr (h ▸ hmem)))
  have hle := he.countP_occurrences_le (p := (· == t)) (by simpa using hε.symm) (by simpa using hnew)
  have hpos := List.count_pos_iff.mpr (he.mem_occurrences_extracted hmem)
  rw [List.count] at ht hpos ⊢
  omega

/-- Alternatives do not begin with a symbol that is written once. -/
theorem count_ne_one (he : g.Mergeable A s new) : g.occurrences.count s ≠ 1 := by
  intro h
  have hle := he.countP_occurrences_le (p := (· == s)) (by simpa using he.ne_epsilon.symm) (by
    have hs : s ∈ g.occurrences := List.count_pos_iff.mp (by omega)
    simpa using fun he' : new = s => he.unused (mem_symbols_iff.mpr (Or.inr (he' ▸ hs))))
  have hone := he.count_eq_one he.ne_epsilon h
  have hpos := he.countP_sharedStart_pos (p := (· == s)) (by simp)
  rw [List.count] at h hone
  omega

end Mergeable

namespace Extractable

theorem isCanonical (he : g.Extractable A s new) (C : Symbol) : ∀ α ∈ g.alternatives C, α.IsCanonical :=
  fun _ hα => he.canonical.cases hα

theorem epsilon_not_mem_of_head? (he : g.Extractable A s new) (hα : α ∈ g.alternatives A)
    (hs : α.head? = some s) : epsilon ∉ α :=
  he.toMergeable.epsilon_not_mem_of_head? (he.isCanonical A) hα hs

theorem epsilon_not_mem_sharedStart (he : g.Extractable A s new) : epsilon ∉ g.sharedStart A s :=
  he.toMergeable.epsilon_not_mem_sharedStart (he.isCanonical A)

theorem isCanonical_of_mem_tails (he : g.Extractable A s new) (hγ : γ ∈ g.tails A s) :
    γ.IsCanonical :=
  he.toMergeable.isCanonical_of_mem_tails (he.isCanonical A) hγ

/-- The merged alternatives are the common start with an alternative of the new nonterminal. -/
theorem mem_merged_iff (he : g.Extractable A s new) : (α ∈ g.alternatives A ∧ α.head? = some s) ↔
    ∃ γ ∈ g.tails A s, α = (g.sharedStart A s).concat γ := by
  have hconcat : ∀ {α}, α ∈ g.alternatives A → α.head? = some s →
      (g.sharedStart A s).concat (remainder (g.sharedStart A s).length α) = α := fun hα hs =>
    concat_remainder he.sharedStart_ne_nil (exists_append_of_head? hα hs)
      (he.epsilon_not_mem_of_head? hα hs)
  constructor
  · rintro ⟨hα, hs⟩
    exact ⟨_, mem_tails_iff.mpr ⟨α, hα, hs, rfl⟩, (hconcat hα hs).symm⟩
  · rintro ⟨γ, hγ, rfl⟩
    obtain ⟨α, hα, hs, rfl⟩ := mem_tails_iff.mp hγ
    rw [hconcat hα hs]
    exact ⟨hα, hs⟩

theorem canonical_extracted (he : g.Extractable A s new) : (g.extracted A s new).Canonical := by
  refine canonical_iff.mpr ⟨?_, he.isCanonical_extracted he.isCanonical⟩
  rw [he.nonterminals_extracted]
  simpa [he.new_ne_epsilon.symm] using he.canonical.epsilon_not_mem

end Extractable

end FormalLanguages.Grammar
