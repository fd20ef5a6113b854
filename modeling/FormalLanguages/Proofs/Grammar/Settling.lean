import FormalLanguages.Proofs.Grammar.Elimination
import FormalLanguages.Proofs.Grouping
import Mathlib.Algebra.Order.BigOperators.Group.List
import Mathlib.Algebra.Order.Group.Nat
/-!
# Settling comes to an end

The alternatives of a nonterminal are swept until no sweep changes them. The depth of an alternative
counts the sweeps that it can still need: one for a nonterminal of the given grammar in front, as its
own alternatives begin with symbols that come later in the sweep, and one for each new nonterminal
before it, which may vanish. A sweep lowers the greatest depth.

Results:
* `substitute_shallow`: one substitution lowers the depth or moves the front behind itself.
* `exists_settle_of_sweeps`: settling comes to an end where each sweep lowers a bound.
* `exists_settle`: it does where all nonterminals before have been treated, and then no front is left to
  replace.
-/
namespace FormalLanguages

namespace Grammar

variable {g : Grammar} {original : NameSet} {earlier done todo : List Symbol} {A B : Symbol}

theorem nodup_substitute (B : Symbol) (replacements alternatives : List Alternative) :
    (substitute B replacements alternatives).Nodup :=
  nodup_eraseDups _

theorem substitute_eq_self {replacements alternatives : List Alternative} (hd : alternatives.Nodup)
    (h : ∀ α ∈ alternatives, α.head? ≠ some B) :
    substitute B replacements alternatives = alternatives := by
  rw [substitute, List.flatMap_congr (g := fun α => [α]), List.flatMap_singleton',
    eraseDups_eq_self hd]
  intro α hα
  cases α with
  | nil => rfl
  | cons s γ =>
    have hs : s ≠ B := by simpa using h _ hα
    exact if_neg hs

/-- A sweep changes nothing where there is no front to replace. -/
theorem substituteAll_eq_self {alternatives : List Alternative} (hd : alternatives.Nodup)
    (hne : [] ∉ alternatives) (h : ∀ α ∈ alternatives, ∀ s ∈ α.head?, s ∉ earlier) :
    g.substituteAll earlier alternatives = .ok alternatives := by
  induction earlier with
  | nil => rfl
  | cons B earlier ih =>
    refine substituteAll_cons_eq_ok_iff.mpr ⟨hne, ?_⟩
    rw [substitute_eq_self hd fun α hα hB => h α hα B hB List.mem_cons_self]
    exact ih fun α hα s hs => fun hmem => h α hα s hs (List.mem_cons_of_mem _ hmem)

/-! ## The depth -/

/-- How an alternative begins once its nonterminal has been treated: with a symbol of the given grammar
that is not among those up to it. Only a new nonterminal has `ε`. -/
inductive Treated (original : NameSet) (upTo : List Symbol) (A : Symbol) : Alternative → Prop
  | empty : A ∉ original → Treated original upTo A [epsilon]
  | led {x : Symbol} {γ : List Symbol} :
    epsilon ∉ x :: γ → x ∈ original → x ∉ upTo → Treated original upTo A (x :: γ)

/-- The nonterminals of a list have been treated one after the other. -/
def AllTreated (g : Grammar) (original : NameSet) (earlier : List Symbol) : Prop :=
  ∀ done B todo, earlier = done ++ B :: todo →
    ∀ δ ∈ g.alternatives B, Treated original (done ++ [B]) B δ

/-- How many sweeps the front of a sequence can still need. -/
def depth (original : NameSet) (earlier : List Symbol) : List Symbol → Nat
  | [] => 0
  | s :: α =>
    if s ∈ earlier then if s ∈ original then 1 else depth original earlier α + 1 else 0

/-- The depth is at most `k`, or it is one more and the front is yet to come in the sweep. -/
def Shallow (original : NameSet) (earlier done : List Symbol) (k : Nat) (α : Alternative) : Prop :=
  depth original earlier α ≤ k ∨
    depth original earlier α ≤ k + 1 ∧ ∀ s ∈ α.head?, s ∉ done

theorem depth_of_not_mem {s : Symbol} (h : s ∉ earlier) (α : List Symbol) :
    depth original earlier (s :: α) = 0 :=
  if_neg h

theorem depth_le_one {s : Symbol} (h : s ∈ original) (α : List Symbol) :
    depth original earlier (s :: α) ≤ 1 := by
  unfold depth
  split
  · exact Nat.le_refl 1
  · exact Nat.zero_le _

theorem depth_prime (hB : B ∈ earlier) (ho : B ∉ original) (α : List Symbol) :
    depth original earlier (B :: α) = depth original earlier α + 1 := by
  rw [depth, if_pos hB, if_neg ho]

theorem depth_eq_zero_iff {α : List Symbol} :
    depth original earlier α = 0 ↔ ∀ s ∈ α.head?, s ∉ earlier := by
  cases α with
  | nil => simp [depth]
  | cons s α =>
    unfold depth
    split
    · next h => split <;> simp [h]
    · next h => simp [h]

theorem depth_le_length (α : List Symbol) : depth original earlier α ≤ α.length := by
  induction α with
  | nil => exact Nat.le_refl _
  | cons s α ih =>
    unfold depth
    split
    · split <;> simp [ih]
    · exact Nat.zero_le _

/-! ## A sweep -/

/-- One substitution lowers the depth or moves the front behind itself. -/
theorem substitute_shallow (ht : g.AllTreated original earlier) (hε : epsilon ∉ earlier)
    (he : earlier = done ++ B :: todo) {k : Nat} {alternatives : List Alternative}
    (h : ∀ α ∈ alternatives, α.IsCanonical ∧ Shallow original earlier done k α) :
    ∀ α ∈ substitute B (g.alternatives B) alternatives,
      α.IsCanonical ∧ Shallow original earlier (done ++ [B]) k α := by
  have hB : B ∈ earlier := he ▸ (by simp)
  have hBε : B ≠ epsilon := ne_of_mem_of_not_mem hB hε
  intro β hβ
  rcases mem_substitute_iff.mp hβ with ⟨hβ, hhead⟩ | ⟨γ, δ, hγ, hδ, rfl⟩
  · obtain ⟨hc, hs⟩ := h β hβ
    refine ⟨hc, hs.imp_right fun ⟨hd, hdone⟩ => ⟨hd, fun s hs hmem => ?_⟩⟩
    rcases List.mem_append.mp hmem with hmem | hmem
    · exact hdone s hs hmem
    · exact hhead (List.mem_singleton.mp hmem ▸ hs)
  · obtain ⟨hc, hs⟩ := h _ hγ
    refine ⟨Alternative.isCanonical_concat δ γ, ?_⟩
    have hγε : epsilon ∉ γ := by
      rcases hc with heq | ⟨-, hne⟩
      · exact absurd (List.cons.inj heq).1 hBε
      · exact fun hmem => hne (List.mem_cons_of_mem _ hmem)
    have hle : depth original earlier (B :: γ) ≤ k + 1 := by
      rcases hs with hs | ⟨hs, -⟩
      · omega
      · exact hs
    cases ht done B todo he δ hδ with
    | empty ho =>
      refine Or.inl ?_
      rw [depth_prime hB ho] at hle
      by_cases hnil : γ = []
      · rw [hnil, show Alternative.concat [epsilon] [] = [epsilon] from rfl, depth_of_not_mem hε]
        exact Nat.zero_le k
      · rw [Alternative.concat_epsilon hγε hnil]
        omega
    | @led x δ hδε hx hnot =>
      refine Or.inr ?_
      rw [Alternative.concat_of_epsilon_not_mem hδε hγε (by simp)]
      exact ⟨(depth_le_one hx _).trans (by omega), by simpa using hnot⟩

/-- A sweep lowers the depth. -/
theorem substituteAll_shallow (ht : g.AllTreated original earlier) (hε : epsilon ∉ earlier)
    (he : earlier = done ++ todo) {k : Nat} {alternatives : List Alternative}
    (h : ∀ α ∈ alternatives, α.IsCanonical ∧ Shallow original earlier done k α) :
    ∃ next, g.substituteAll todo alternatives = .ok next ∧
      ∀ α ∈ next, α.IsCanonical ∧ depth original earlier α ≤ k := by
  induction todo generalizing done alternatives with
  | nil =>
    refine ⟨alternatives, rfl, fun α hα => ⟨(h α hα).1, ?_⟩⟩
    rcases (h α hα).2 with hs | ⟨-, hs⟩
    · exact hs
    · rw [List.append_nil] at he
      rw [depth_eq_zero_iff.mpr (he ▸ hs)]
      exact Nat.zero_le k
  | cons B todo ih =>
    obtain ⟨next, hnext, hs⟩ := ih (by simpa using he) (substitute_shallow ht hε he h)
    refine ⟨next, substituteAll_cons_eq_ok_iff.mpr ⟨fun hnil => ?_, hnext⟩, hs⟩
    rcases (h [] hnil).1 with h | ⟨h, -⟩
    · cases h
    · exact h rfl

/-! ## Sweeps until nothing changes -/

theorem exists_settle_of_substituteAll {alternatives next result : List Alternative} {n : Nat}
    (hs : g.substituteAll earlier alternatives = .ok next)
    (h : g.settle earlier n next = .ok result) : ∃ m, g.settle earlier m alternatives = .ok result := by
  by_cases hn : next = alternatives
  · exact ⟨n, hn ▸ h⟩
  · exact ⟨n + 1, settle_succ_eq_ok_iff.mpr ⟨next, hs, Or.inr ⟨hn, h⟩⟩⟩

section
variable {P : Nat → Alternative → Prop}
  (hfront : ∀ α, P 0 α → α ≠ [] ∧ ∀ s ∈ α.head?, s ∉ earlier)
  (hsweep : ∀ k alternatives, (∀ α ∈ alternatives, P (k + 1) α) →
    ∃ next, g.substituteAll earlier alternatives = .ok next ∧ ∀ α ∈ next, P k α)
include hfront hsweep

theorem exists_settle_of_nodup {k : Nat} {alternatives : List Alternative} (hd : alternatives.Nodup)
    (h : ∀ α ∈ alternatives, P k α) :
    ∃ n result, g.settle earlier n alternatives = .ok result ∧
      ∀ α ∈ result, ∀ s ∈ α.head?, s ∉ earlier := by
  -- a sweep that has nothing to replace still drops repetitions, and there are none
  induction k generalizing alternatives with
  | zero =>
    have hs := substituteAll_eq_self (g := g) hd (fun hnil => (hfront [] (h [] hnil)).1 rfl)
      fun α hα => (hfront α (h α hα)).2
    exact ⟨1, alternatives, settle_succ_eq_ok_iff.mpr ⟨alternatives, hs, Or.inl ⟨rfl, rfl⟩⟩,
      fun α hα => (hfront α (h α hα)).2⟩
  | succ k ih =>
    obtain ⟨next, hs, hnext⟩ := hsweep k alternatives h
    have hnd : next.Nodup :=
      substituteAll_induction (fun B _ as _ _ => nodup_substitute B (g.alternatives B) as) hs hd
    obtain ⟨n, result, hn, hresult⟩ := ih hnd hnext
    obtain ⟨m, hm⟩ := exists_settle_of_substituteAll hs hn
    exact ⟨m, result, hm, hresult⟩

/-- Where each sweep lowers a bound that says how far the alternatives are from having no front to replace,
settling comes to an end. -/
theorem exists_settle_of_sweeps (hsucc : ∀ k α, P k α → P (k + 1) α) {k : Nat}
    {alternatives : List Alternative} (h : ∀ α ∈ alternatives, P k α) :
    ∃ n result, g.settle earlier n alternatives = .ok result ∧
      ∀ α ∈ result, ∀ s ∈ α.head?, s ∉ earlier := by
  cases earlier with
  | nil =>
    exact ⟨1, alternatives, settle_succ_eq_ok_iff.mpr ⟨alternatives, rfl, Or.inl ⟨rfl, rfl⟩⟩, by simp⟩
  | cons B earlier =>
    -- the given alternatives may be repeated, but not those that a first sweep leaves
    obtain ⟨next, hs, hnext⟩ := hsweep k alternatives fun α hα => hsucc k α (h α hα)
    have hnd : next.Nodup := substituteAll_induction (P := List.Nodup)
      (fun B _ as _ _ => nodup_substitute B (g.alternatives B) as)
      (substituteAll_cons_eq_ok_iff.mp hs).2 (nodup_substitute ..)
    obtain ⟨n, result, hn, hresult⟩ := exists_settle_of_nodup hfront hsweep hnd hnext
    obtain ⟨m, hm⟩ := exists_settle_of_substituteAll hs hn
    exact ⟨m, result, hm, hresult⟩

end

/-- Settling comes to an end, and then no front is left to replace. -/
theorem exists_settle (ht : g.AllTreated original earlier) (hε : epsilon ∉ earlier)
    {alternatives : List Alternative} (h : ∀ α ∈ alternatives, α.IsCanonical) :
    ∃ n result, g.settle earlier n alternatives = .ok result ∧
      ∀ α ∈ result, ∀ s ∈ α.head?, s ∉ earlier := by
  have hdepth : ∀ α ∈ alternatives,
      depth original earlier α ≤ (alternatives.map List.length).sum := fun α hα =>
    (depth_le_length α).trans (List.le_sum_of_mem (List.mem_map_of_mem hα))
  refine exists_settle_of_sweeps (P := fun k α => α.IsCanonical ∧ depth original earlier α ≤ k)
    (fun α hα => ⟨hα.1.ne_nil, depth_eq_zero_iff.mp (Nat.le_zero.mp hα.2)⟩) (fun k as has => ?_)
    (fun k α hα => ⟨hα.1, Nat.le_succ_of_le hα.2⟩) fun α hα => ⟨h α hα, hdepth α hα⟩
  exact substituteAll_shallow ht hε (List.nil_append _).symm fun α hα =>
    ⟨(has α hα).1, Or.inr ⟨(has α hα).2, by simp⟩⟩

end Grammar

end FormalLanguages
