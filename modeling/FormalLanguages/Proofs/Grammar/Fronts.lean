import FormalLanguages.Proofs.Grammar.First
import FormalLanguages.Proofs.Grammar.LeftRecursion
import FormalLanguages.Proofs.Grammar.Settling
import Mathlib.Logic.Relation
/-!
# Fronts

A front of a nonterminal stands in one of its alternatives behind symbols that vanish; it is hidden if there
are such symbols. Left recursion is a cycle of fronts.

Where some nonterminals have a rank that falls from each to its fronts among them, replacing these in front of
alternatives comes to an end: a front that is replaced gives way to fronts of lower rank, and what is behind it
comes to the front only if it vanishes.

Results:
* `mem_fronts_iff_front`, `mem_leftRecursive_iff_transGen`: what is listed as a front or as left recursive.
* `exists_rank`: a relation without cycles has a rank that falls along it.
* `DescendsIn.exists_settle`: with such a rank settling comes to an end, and no front is left to replace.
-/
namespace FormalLanguages

open Relation

/-- Where more is allowed with a greater bound, finitely many things have a common one. -/
theorem exists_forall_of_mono {α : Type} {P : Nat → α → Prop}
    (hP : ∀ {n m x}, n ≤ m → P n x → P m x) {xs : List α} (h : ∀ x ∈ xs, ∃ n, P n x) :
    ∃ n, ∀ x ∈ xs, P n x := by
  induction xs with
  | nil => exact ⟨0, by simp⟩
  | cons x xs ih =>
    obtain ⟨⟨n, hn⟩, hxs⟩ := List.forall_mem_cons.mp h
    obtain ⟨m, hm⟩ := ih hxs
    exact ⟨max n m, List.forall_mem_cons.mpr
      ⟨hP (Nat.le_max_left n m) hn, fun y hy => hP (Nat.le_max_right n m) (hm y hy)⟩⟩

/-- A relation to finitely many things that has no cycle falls in rank: the rank of a thing is the number of
those to which it leads. -/
theorem exists_rank {α : Type} {R : α → α → Prop} (xs : List α) (hR : ∀ a b, R a b → b ∈ xs)
    (h : ∀ a, ¬ TransGen R a a) : ∃ rank : α → Nat, ∀ a b, R a b → rank b < rank a := by
  classical
  refine ⟨fun a => xs.countP fun b => TransGen R a b, fun a b hab => ?_⟩
  refine countP_lt_of_imp (fun c hc => ?_) (hR a b hab) (decide_eq_true (TransGen.single hab))
    (decide_eq_false (h b))
  exact decide_eq_true (TransGen.head hab (of_decide_eq_true hc))

namespace Grammar

variable {g : Grammar} {A B : Symbol} {α γ δ : List Symbol} {rank : Symbol → Nat}

/-! ## Fronts -/

/-- `B` stands in an alternative of `A` behind symbols that vanish. -/
def Front (g : Grammar) (A B : Symbol) : Prop :=
  B ∈ g.nonterminals ∧ ∃ before after, before ++ B :: after ∈ g.alternatives A ∧ g.Yields before []

/-- `B` is a front of `A` with some symbols before it. -/
def HiddenFront (g : Grammar) (A B : Symbol) : Prop :=
  B ∈ g.nonterminals ∧
    ∃ before after, before ≠ [] ∧ before ++ B :: after ∈ g.alternatives A ∧ g.Yields before []

/-- The rank falls from each nonterminal to its fronts. -/
def Descends (g : Grammar) (rank : Symbol → Nat) : Prop := ∀ A B, g.Front A B → rank B < rank A

/-- The rank falls from each of some nonterminals to its fronts among them. -/
def DescendsIn (g : Grammar) (earlier : List Symbol) (rank : Symbol → Nat) : Prop :=
  ∀ A ∈ earlier, ∀ B ∈ earlier, g.Front A B → rank B < rank A

theorem Front.mem_nonterminals (h : g.Front A B) : A ∈ g.nonterminals := by
  obtain ⟨-, before, after, hα, -⟩ := h
  exact mem_nonterminals_of_mem_alternatives hα

theorem HiddenFront.front (h : g.HiddenFront A B) : g.Front A B := by
  obtain ⟨hB, before, after, -, hα, hv⟩ := h
  exact ⟨hB, before, after, hα, hv⟩

/-- The first symbol of an alternative, if it is a nonterminal, is a front. -/
theorem front_of_head (hB : B ∈ g.nonterminals) (hγ : B :: γ ∈ g.alternatives A) : g.Front A B :=
  ⟨hB, [], γ, hγ, .nil⟩

/-- A front that is not hidden is the first symbol of an alternative. -/
theorem Front.hidden_or_head (h : g.Front A B) :
    g.HiddenFront A B ∨ ∃ γ, B :: γ ∈ g.alternatives A := by
  obtain ⟨hB, before, after, hα, hv⟩ := h
  cases before with
  | nil => exact Or.inr ⟨after, hα⟩
  | cons s before => exact Or.inl ⟨hB, s :: before, after, by simp, hα, hv⟩

theorem Descends.descendsIn (hd : g.Descends rank) (earlier : List Symbol) :
    g.DescendsIn earlier rank :=
  fun A _ B _ h => hd A B h

/-- Where a rank falls along fronts, they have no cycle. -/
theorem Descends.not_transGen (hd : g.Descends rank) (A : Symbol) : ¬ TransGen g.Front A A := by
  have hfall : ∀ {B}, TransGen g.Front A B → rank B < rank A := fun h => by
    induction h with
    | single h => exact hd _ _ h
    | tail _ h ih => exact (hd _ _ h).trans ih
  exact fun h => Nat.lt_irrefl _ (hfall h)

theorem mem_nonterminals_of_yields_nil (he : A ≠ epsilon) (h : g.Yields [A] []) :
    A ∈ g.nonterminals := by
  by_contra hn
  cases (yields_terminal_iff hn he).mp h

/-! ## Left recursion -/

theorem yields_nil_of_mem_erasable (h : A ∈ g.erasable) : g.Yields [A] [] := by
  rw [erasable, mem_consequences_iff] at h
  induction h with
  | rule hr _ ih =>
    obtain ⟨⟨A, α⟩, hp, rfl⟩ := List.mem_map.mp hr
    exact .of_alternative (mem_productions_iff.mp hp) (.of_body (.of_forall_mem ih))

theorem Yields.mem_erasable {w : List Symbol} (h : g.Yields α w) (hw : w = []) :
    ∀ s ∈ α, s ≠ epsilon → s ∈ g.erasable := by
  induction h with
  | nil => simp
  | vanish _ ih => exact List.forall_mem_cons.mpr ⟨fun he => absurd rfl he, ih hw⟩
  | terminal => cases hw
  | @nonterminal A α β u v hα _ _ ihα ihβ =>
    obtain ⟨rfl, rfl⟩ := List.append_eq_nil_iff.mp hw
    refine List.forall_mem_cons.mpr ⟨fun _ => mem_consequences_iff.mpr ?_, ihβ rfl⟩
    refine Follows.rule (List.mem_map.mpr ⟨(A, α), mem_productions_iff.mpr hα, rfl⟩) fun s hs => ?_
    obtain ⟨hs, he⟩ := List.mem_filter.mp hs
    exact mem_consequences_iff.mp (ihα rfl s hs (of_decide_eq_true he))

theorem exists_place_of_mem_frontsOf {erasable : List Symbol} (h : B ∈ g.frontsOf erasable α) :
    B ∈ g.nonterminals ∧ ∃ before after, α = before ++ B :: after ∧ ∀ s ∈ before, s ∈ erasable := by
  induction α with
  | nil => cases h
  | cons s α ih =>
    unfold frontsOf at h
    split at h
    · next hs =>
      have hfirst : B = s → B ∈ g.nonterminals ∧ ∃ before after,
          s :: α = before ++ B :: after ∧ ∀ s ∈ before, s ∈ erasable := by
        rintro rfl
        exact ⟨isNonterminal_iff.mp hs, [], α, rfl, by simp⟩
      split at h
      · next he =>
        rcases List.mem_cons.mp h with h | h
        · exact hfirst h
        · obtain ⟨hB, before, after, rfl, hb⟩ := ih h
          exact ⟨hB, s :: before, after, rfl, List.forall_mem_cons.mpr ⟨he, hb⟩⟩
      · exact hfirst (List.mem_singleton.mp h)
    · cases h

theorem front_of_mem_fronts (h : B ∈ g.fronts g.erasable A) : g.Front A B := by
  obtain ⟨α, hα, hB⟩ := mem_fronts_iff.mp h
  obtain ⟨hmem, before, after, rfl, hb⟩ := exists_place_of_mem_frontsOf hB
  exact ⟨hmem, before, after, hα, .of_forall_mem fun s hs => yields_nil_of_mem_erasable (hb s hs)⟩

theorem mem_frontsOf_of_place {erasable before after : List Symbol} (hB : B ∈ g.nonterminals)
    (hb : ∀ s ∈ before, s ∈ g.nonterminals ∧ s ∈ erasable) :
    B ∈ g.frontsOf erasable (before ++ B :: after) := by
  induction before with
  | nil =>
    rw [List.nil_append, frontsOf, if_pos (isNonterminal_iff.mpr hB)]
    split <;> exact List.mem_cons_self
  | cons s before ih =>
    obtain ⟨⟨hs, he⟩, hb⟩ := List.forall_mem_cons.mp hb
    rw [List.cons_append, frontsOf, if_pos (isNonterminal_iff.mpr hs), if_pos he]
    exact List.mem_cons_of_mem _ (ih hb)

/-- The nonterminals that are listed as fronts are the fronts. -/
theorem mem_fronts_iff_front (hg : g.Canonical) : B ∈ g.fronts g.erasable A ↔ g.Front A B := by
  refine ⟨front_of_mem_fronts, fun h => ?_⟩
  obtain ⟨hB, before, after, hα, hv⟩ := h
  have hε : epsilon ∉ before := fun he => by
    rcases hg.cases hα with h | ⟨-, h⟩
    · cases before with
      | nil => cases he
      | cons s before => exact absurd (List.cons.inj h).2 (by simp)
    · exact h (List.mem_append_left _ he)
  refine mem_fronts_iff.mpr ⟨_, hα, mem_frontsOf_of_place hB fun s hs => ?_⟩
  have hne : s ≠ epsilon := ne_of_mem_of_not_mem hs hε
  exact ⟨mem_nonterminals_of_yields_nil hne (hv.forall_mem s hs), hv.mem_erasable rfl s hs hne⟩

/-- The left-recursive nonterminals are those to which their fronts lead back. -/
theorem mem_leftRecursive_iff_transGen (hg : g.Canonical) :
    A ∈ g.leftRecursive ↔ TransGen g.Front A A := by
  have hreach : ∀ {B C : Symbol}, Reaches (g.fronts g.erasable) B C ↔ ReflTransGen g.Front B C := by
    intro B C
    constructor
    · intro h
      induction h with
      | refl => exact .refl
      | step _ hC ih => exact ih.tail (front_of_mem_fronts hC)
    · intro h
      induction h with
      | refl => exact .refl
      | tail _ hC ih => exact ih.step ((mem_fronts_iff_front hg).mpr hC)
  rw [mem_leftRecursive_iff, TransGen.head'_iff]
  simp only [mem_fronts_iff_front hg, hreach]
  exact and_iff_right_of_imp fun ⟨_, hB, _⟩ => hB.mem_nonterminals

theorem leftRecursive_eq_nil_iff (hg : g.Canonical) :
    g.leftRecursive = [] ↔ ∀ A, ¬ TransGen g.Front A A := by
  rw [List.eq_nil_iff_forall_not_mem]
  exact forall_congr' fun A => (mem_leftRecursive_iff_transGen hg).not

/-- Where nothing is left recursive, the nonterminals have a rank that falls along fronts. -/
theorem exists_descends (h : ∀ A, ¬ TransGen g.Front A A) : ∃ rank, g.Descends rank :=
  exists_rank g.nonterminals (fun _ _ hfront => hfront.1) h

/-! ## Replacing fronts comes to an end -/

/-- The front of an alternative can be replaced, and again in what comes of it, at most `n` times. -/
def RunsOut (g : Grammar) (earlier : List Symbol) : (n : Nat) → Alternative → Prop
  | 0, α => ∀ s ∈ α.head?, s ∉ earlier
  | n + 1, α => ∀ B γ, α = B :: γ → B ∈ earlier → ∀ δ ∈ g.alternatives B,
    RunsOut g earlier n (δ.concat γ)

variable {earlier done todo : List Symbol} {n m : Nat} {alternatives : List Alternative}

theorem RunsOut.succ (h : g.RunsOut earlier n α) : g.RunsOut earlier (n + 1) α := by
  induction n generalizing α with
  | zero =>
    rintro B γ rfl hB
    exact absurd hB (h B rfl)
  | succ n ih => exact fun B γ hα hB δ hδ => ih (h B γ hα hB δ hδ)

theorem RunsOut.mono (hle : n ≤ m) (h : g.RunsOut earlier n α) : g.RunsOut earlier m α := by
  induction hle with
  | refl => exact h
  | step _ ih => exact ih.succ

theorem runsOut_of_not_mem (h : ∀ s ∈ α.head?, s ∉ earlier) (n : Nat) : g.RunsOut earlier n α :=
  RunsOut.mono (Nat.zero_le n) h

/-- A substitution brings an alternative one step further, if it has its nonterminal in front. -/
theorem substitute_runsOut (hB : B ∈ earlier)
    (h : ∀ α ∈ alternatives, α ≠ [] ∧
      (g.RunsOut earlier n α ∨ g.RunsOut earlier (n + 1) α ∧ ∀ s ∈ α.head?, s ∉ done)) :
    ∀ α ∈ substitute B (g.alternatives B) alternatives, α ≠ [] ∧
      (g.RunsOut earlier n α ∨ g.RunsOut earlier (n + 1) α ∧ ∀ s ∈ α.head?, s ∉ done ++ [B]) := by
  intro β hβ
  rcases mem_substitute_iff.mp hβ with ⟨hβ, hhead⟩ | ⟨γ, δ, hγ, hδ, rfl⟩
  · obtain ⟨hne, hs⟩ := h β hβ
    refine ⟨hne, hs.imp_right fun ⟨hs, hdone⟩ => ⟨hs, fun s hs hmem => ?_⟩⟩
    rcases List.mem_append.mp hmem with hmem | hmem
    · exact hdone s hs hmem
    · exact hhead (List.mem_singleton.mp hmem ▸ hs)
  · have hruns : g.RunsOut earlier (n + 1) (B :: γ) := (h _ hγ).2.elim RunsOut.succ And.left
    exact ⟨(Alternative.isCanonical_concat δ γ).ne_nil, Or.inl (hruns B γ rfl hB δ hδ)⟩

/-- A sweep brings each alternative one step further. -/
theorem substituteAll_runsOut (he : earlier = done ++ todo)
    (h : ∀ α ∈ alternatives, α ≠ [] ∧
      (g.RunsOut earlier n α ∨ g.RunsOut earlier (n + 1) α ∧ ∀ s ∈ α.head?, s ∉ done)) :
    ∃ next, g.substituteAll todo alternatives = .ok next ∧
      ∀ α ∈ next, α ≠ [] ∧ g.RunsOut earlier n α := by
  induction todo generalizing done alternatives with
  | nil =>
    refine ⟨alternatives, rfl, fun α hα => (h α hα).imp_right fun hs => ?_⟩
    rw [List.append_nil] at he
    exact hs.elim id fun hs => runsOut_of_not_mem (he ▸ hs.2) n
  | cons B todo ih =>
    have hB : B ∈ earlier := he ▸ (by simp)
    obtain ⟨next, hnext, hs⟩ := ih (by simpa using he) (substitute_runsOut hB h)
    exact ⟨next, substituteAll_cons_eq_ok_iff.mpr ⟨fun hnil => (h [] hnil).1 rfl, hnext⟩, hs⟩

/-- Alternatives in which fronts can be replaced only so many times settle, and no front is left. -/
theorem exists_settle_of_runsOut (h : ∀ α ∈ alternatives, α ≠ [] ∧ g.RunsOut earlier n α) :
    ∃ k result, g.settle earlier k alternatives = .ok result ∧
      ∀ α ∈ result, ∀ s ∈ α.head?, s ∉ earlier :=
  exists_settle_of_sweeps (P := fun n α => α ≠ [] ∧ g.RunsOut earlier n α)
    (fun _ hα => hα)
    (fun n as has => substituteAll_runsOut (List.nil_append earlier).symm fun α hα =>
      (has α hα).imp_right fun hr => Or.inr ⟨hr, by simp⟩)
    (fun _ _ hα => ⟨hα.1, hα.2.succ⟩) h

/-- Fronts run out in a sequence if they do behind each symbol that can come to its front. -/
theorem exists_runsOut_append (hsub : ∀ B ∈ earlier, B ∈ g.nonterminals)
    (hfront : ∀ before s after, δ = before ++ s :: after → s ∈ g.nonterminals → g.Yields before [] →
      ∀ γ, epsilon ∉ γ → (g.Yields [s] [] → ∃ n, g.RunsOut earlier n γ) →
        ∃ n, g.RunsOut earlier n (s :: γ))
    (hδ : epsilon ∉ δ) (hγ : epsilon ∉ γ) (h : g.Yields δ [] → ∃ n, g.RunsOut earlier n γ) :
    ∃ n, g.RunsOut earlier n (δ ++ γ) := by
  induction δ with
  | nil => exact h .nil
  | cons s δ ih =>
    have hδ' : epsilon ∉ δ := fun he => hδ (List.mem_cons_of_mem _ he)
    by_cases hs : s ∈ g.nonterminals
    · refine hfront [] s δ rfl hs .nil (δ ++ γ) (by simp [hδ', hγ]) fun hv => ih ?_ hδ' fun hvδ => ?_
      · rintro before t after rfl ht hb
        exact hfront (s :: before) t after rfl ht (yields_cons_nil_iff.mpr ⟨hv, hb⟩)
      · exact h (yields_cons_nil_iff.mpr ⟨hv, hvδ⟩)
    · exact ⟨0, fun t ht hmem => hs (hsub s (by
        obtain rfl : s = t := by simpa using ht
        exact hmem))⟩

namespace DescendsIn

theorem exists_runsOut_cons (hd : g.DescendsIn earlier rank) (hg : g.Canonical)
    (hsub : ∀ B ∈ earlier, B ∈ g.nonterminals) (hγ : epsilon ∉ γ)
    (h : g.Yields [B] [] → ∃ n, g.RunsOut earlier n γ) : ∃ n, g.RunsOut earlier n (B :: γ) := by
  induction hk : rank B using Nat.strong_induction_on generalizing B γ with
  | _ k ih =>
    by_cases hB : B ∉ earlier
    · exact ⟨0, by simpa [RunsOut] using hB⟩
    rw [not_not] at hB
    obtain ⟨n, hn⟩ : ∃ n, ∀ δ ∈ g.alternatives B, g.RunsOut earlier n (Alternative.concat δ γ) := by
      refine exists_forall_of_mono (P := fun n δ => g.RunsOut earlier n (Alternative.concat δ γ))
        RunsOut.mono fun δ hδ => ?_
      rcases hg.cases hδ with rfl | ⟨hne, hδε⟩
      · by_cases hnil : γ = []
        · refine ⟨0, fun s hs hmem => hg.epsilon_not_mem (hsub _ ?_)⟩
          rw [hnil, show Alternative.concat [epsilon] [] = [epsilon] from rfl] at hs
          obtain rfl : epsilon = s := by simpa using hs
          exact hmem
        · rw [Alternative.concat_epsilon hγ hnil]
          exact h (.of_alternative hδ (.vanish .nil))
      · rw [Alternative.concat_of_epsilon_not_mem hδε hγ (by simp [hne])]
        refine exists_runsOut_append hsub ?_ hδε hγ fun hv => h (.of_alternative hδ hv)
        rintro before s after rfl hs hb γ hγ hv
        by_cases hearlier : s ∈ earlier
        · have hfront : g.Front B s := ⟨hs, before, after, hδ, hb⟩
          exact ih (rank s) (hk ▸ hd B hB s hearlier hfront) hγ hv rfl
        · exact ⟨0, by simpa [RunsOut] using hearlier⟩
    refine ⟨n + 1, fun C γ' he _ δ hδ => ?_⟩
    obtain ⟨rfl, rfl⟩ := List.cons.inj he
    exact hn δ hδ

/-- Settling comes to an end, and then no front is left to replace. -/
theorem exists_settle (hd : g.DescendsIn earlier rank) (hg : g.Canonical)
    (hsub : ∀ B ∈ earlier, B ∈ g.nonterminals) (A : Symbol) :
    ∃ n alternatives, g.settle earlier n (g.alternatives A) = .ok alternatives ∧
      ∀ α ∈ alternatives, ∀ s ∈ α.head?, s ∉ earlier := by
  obtain ⟨n, hn⟩ : ∃ n, ∀ α ∈ g.alternatives A, g.RunsOut earlier n α := by
    refine exists_forall_of_mono (P := g.RunsOut earlier) RunsOut.mono fun α hα => ?_
    rcases hg.cases hα with rfl | ⟨-, hε⟩
    · refine ⟨0, fun s hs hmem => hg.epsilon_not_mem (hsub _ ?_)⟩
      obtain rfl : epsilon = s := by simpa using hs
      exact hmem
    · have := exists_runsOut_append (γ := []) hsub (fun before s after _ _ _ γ hγ hv =>
        hd.exists_runsOut_cons hg hsub hγ hv) hε (by simp) fun _ => ⟨0, by simp [RunsOut]⟩
      rwa [List.append_nil] at this
  exact exists_settle_of_runsOut fun α hα => ⟨Alternative.IsCanonical.ne_nil (hg.cases hα), hn α hα⟩

/-- Alternatives that have settled begin with no front to replace. -/
theorem not_mem_of_settle (hd : g.DescendsIn earlier rank) (hg : g.Canonical)
    (hsub : ∀ B ∈ earlier, B ∈ g.nonterminals)
    (h : g.settle earlier n (g.alternatives A) = .ok alternatives) :
    ∀ α ∈ alternatives, ∀ s ∈ α.head?, s ∉ earlier := by
  obtain ⟨m, settled, hm, hheads⟩ := hd.exists_settle hg hsub A
  cases (settle_mono h (Nat.le_max_left n m)).symm.trans (settle_mono hm (Nat.le_max_right n m))
  exact hheads

end DescendsIn

end Grammar

end FormalLanguages
