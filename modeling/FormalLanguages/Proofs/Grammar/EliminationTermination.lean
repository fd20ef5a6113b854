import FormalLanguages.Proofs.Grammar.EliminationLanguage
import FormalLanguages.Proofs.Grammar.LeftRecursion
import FormalLanguages.Proofs.Grammar.Settling
import Mathlib.Algebra.GroupWithZero.Nat
/-!
# Elimination of left recursion comes to an end

For a grammar without `ε`. The nonterminals before the one that is to be treated begin their
alternatives with symbols of the given grammar that come later in the order (`Treated`). Those that
wait do so after new nonterminals that come before them, or they are new and consist of themselves
(`Leads`). So a new nonterminal is never left recursive when its turn comes, and it breeds no other.

Results:
* `Ordered.removeImmediate`: treating a nonterminal keeps the invariant and lowers what is left to do.
* `Ordered.finishes`: a run comes to an end.
* `eliminateLeftRecursion_leftRecursive`: the elimination comes to an end, and nothing in its result is
  left recursive.
-/
namespace FormalLanguages

namespace Grammar

variable {g : Grammar} {original taken : NameSet} {earlier : List Symbol} {A B prime : Symbol}
variable {alternatives : List Alternative} {i : Nat}

/-! ## Alternatives that wait -/

/-- Some new nonterminals come before a symbol of the given grammar, or before `A` at the end. -/
inductive Leads (original : NameSet) (earlier : List Symbol) (A : Symbol) : List Symbol → Prop
  | self : Leads original earlier A [A]
  | original {x : Symbol} {γ : List Symbol} : x ∈ original → Leads original earlier A (x :: γ)
  | prime {p : Symbol} {γ : List Symbol} : p ∈ earlier → p ∉ original →
    Leads original earlier A γ → Leads original earlier A (p :: γ)

/-- How an alternative begins before its nonterminal is treated. -/
inductive Waiting (original : NameSet) (earlier : List Symbol) (A : Symbol) : Alternative → Prop
  | empty : A ∉ original → Waiting original earlier A [epsilon]
  | led {α : List Symbol} : epsilon ∉ α → Leads original earlier A α → Waiting original earlier A α

theorem Leads.ne_nil {α : List Symbol} (h : Leads original earlier A α) : α ≠ [] := by
  cases h <;> simp

/-- What is made of old symbols and of nonterminals before `A`, with `A` at the end. -/
theorem leads_append (α : List Symbol) (h : ∀ s ∈ α, s ∈ original ∨ s ∈ earlier) :
    Leads original earlier A (α ++ [A]) := by
  induction α with
  | nil => exact .self
  | cons s α ih =>
    by_cases hs : s ∈ original
    · exact .original hs
    · exact .prime ((h s List.mem_cons_self).resolve_left hs) hs
        (ih fun t ht => h t (List.mem_cons_of_mem _ ht))

/-- Substitution of what has been treated keeps the form of the alternatives. -/
theorem substitute_waiting {upTo : List Symbol} (hB : B ∈ earlier) (hA : A ∉ earlier)
    (hε : epsilon ∉ earlier) (ht : ∀ δ ∈ g.alternatives B, Treated original upTo B δ)
    (h : ∀ α ∈ alternatives, Waiting original earlier A α) :
    ∀ α ∈ substitute B (g.alternatives B) alternatives, Waiting original earlier A α := by
  intro β hβ
  rcases mem_substitute_iff.mp hβ with ⟨hβ, -⟩ | ⟨γ, δ, hγ, hδ, rfl⟩
  · exact h β hβ
  · obtain ⟨hγε, hl⟩ : epsilon ∉ B :: γ ∧ Leads original earlier A (B :: γ) := by
      generalize he : B :: γ = α at hγ
      cases h α hγ with
      | empty => exact absurd hB ((List.cons.inj he).1 ▸ hε)
      | led hne hl => exact ⟨hne, hl⟩
    have hγε : epsilon ∉ γ := fun hmem => hγε (List.mem_cons_of_mem _ hmem)
    cases ht δ hδ with
    | empty ho =>
      have hl : Leads original earlier A γ := by
        cases hl with
        | self => exact absurd hB hA
        | original hx => exact absurd hx ho
        | prime _ _ hl => exact hl
      rw [Alternative.concat_epsilon hγε hl.ne_nil]
      exact .led hγε hl
    | led hδε hx _ =>
      rw [Alternative.concat_of_epsilon_not_mem hδε hγε (by simp)]
      exact .led (List.not_mem_append hδε hγε) (.original hx)

/-- An alternative that begins neither with `A` nor with what is earlier is in its final form. -/
theorem Waiting.treated {α : Alternative} (h : Waiting original earlier A α)
    (hfront : ∀ s ∈ α.head?, s ∉ earlier) (hA : α.head? ≠ some A) :
    Treated original (earlier ++ [A]) A α := by
  cases h with
  | empty ho => exact .empty ho
  | led hne hl =>
    cases hl with
    | self => exact absurd rfl hA
    | @original x γ hx =>
      have hxA : x ≠ A := by simpa using hA
      exact .led hne hx (by simp [hfront x rfl, hxA])
    | @prime p γ hp => exact absurd hp (hfront p rfl)

/-- Only a symbol of the given grammar has alternatives that begin with it and go on. -/
theorem Waiting.mem_original_of_tail {β : List Symbol} (h : Waiting original earlier A (A :: β))
    (hA : A ∉ earlier) (hβ : β ≠ []) :
    A ∈ original ∧ epsilon ∉ β := by
  generalize he : A :: β = α at h
  cases h with
  | empty => exact absurd (List.cons.inj he).2 hβ
  | led hne hl =>
    subst he
    refine ⟨?_, fun hmem => hne (List.mem_cons_of_mem _ hmem)⟩
    cases hl with
    | self => exact absurd rfl hβ
    | original hx => exact hx
    | prime hp => exact absurd hp hA

/-! ## The order -/

/-- Where the run stands: the nonterminals before the `i`th have been treated, the others wait. -/
structure Ordered (original : NameSet) (g : Grammar) (taken : NameSet) (i : Nat) : Prop where
  workable : Workable g taken
  mem_taken : ∀ s, s ∈ taken ↔ s ∈ original ∨ s ∈ g.nonterminals
  treated : ∀ k < i, ∀ A, g.nonterminals[k]? = some A → ∀ α ∈ g.alternatives A,
    Treated original (g.nonterminals.take (k + 1)) A α
  waiting : ∀ k ≥ i, ∀ A, g.nonterminals[k]? = some A → ∀ α ∈ g.alternatives A,
    Waiting original (g.nonterminals.take k) A α

theorem take_succ_of_getElem? {xs : List Symbol} {k : Nat} (h : xs[k]? = some A) :
    xs.take (k + 1) = xs.take k ++ [A] := by
  rw [List.take_add_one, h]; rfl

/-- A place other than the `i`th has another nonterminal. -/
theorem same_place_or_not {k : Nat} (hA : g.nonterminals[i]? = some A)
    (hB : g.nonterminals[k]? = some B) : k = i ∧ B = A ∨ k ≠ i ∧ B ≠ A := by
  by_cases hk : k = i
  · subst hk
    exact Or.inl ⟨rfl, Option.some.inj (hB.symm.trans hA)⟩
  · refine Or.inr ⟨hk, ?_⟩
    intro h
    obtain rfl := h
    obtain ⟨hi', hA⟩ := List.getElem?_eq_some_iff.mp hA
    obtain ⟨hk', hB⟩ := List.getElem?_eq_some_iff.mp hB
    exact hk ((List.Nodup.getElem_inj_iff (show g.nonterminals.Nodup from g.distinct)).mp
      (hB.trans hA.symm))

theorem getElem?_concat_cases {xs : List Symbol} {k : Nat} (h : (xs ++ [B])[k]? = some A) :
    xs[k]? = some A ∨ k = xs.length ∧ A = B := by
  rcases Nat.lt_or_ge k xs.length with hk | hk
  · rw [List.getElem?_append_left hk] at h
    exact Or.inl h
  · rw [List.getElem?_append_right hk] at h
    have hlt : k - xs.length < 1 := (List.getElem?_eq_some_iff.mp h).1
    obtain rfl : k = xs.length := by omega
    exact Or.inr ⟨rfl, by simpa [eq_comm] using h⟩

/-- An alternative after the split stands at an old place, or at the last one. -/
theorem splitOff_cases (hA : A ∈ g.nonterminals) (hp : prime ∉ g.nonterminals) {k : Nat}
    {C : Symbol} {α : Alternative}
    (hC : (g.splitOff A prime alternatives).nonterminals[k]? = some C)
    (hα : α ∈ (g.splitOff A prime alternatives).alternatives C) :
    g.nonterminals[k]? = some C ∧
      α ∈ (if C = A then (otherAlternatives A alternatives).map (Alternative.concat · [prime])
        else g.alternatives C) ∨
    k = g.nonterminals.length ∧ C = prime ∧
      ((∃ β ∈ recursiveTails A alternatives, β.concat [prime] = α) ∨ α = [epsilon]) := by
  rw [nonterminals_splitOff alternatives hA hp] at hC
  rw [alternatives_splitOff] at hα
  obtain hC | ⟨rfl, rfl⟩ := getElem?_concat_cases hC
  · have hCp : C ≠ prime := ne_of_mem_of_not_mem (List.mem_of_getElem? hC) hp
    exact Or.inl ⟨hC, by rwa [if_neg hCp] at hα⟩
  · rw [if_pos rfl, List.mem_append, List.mem_map, List.mem_singleton] at hα
    exact Or.inr ⟨rfl, rfl, hα⟩

theorem Treated.concat_prime {upTo : List Symbol} {γ : Alternative} (h : Treated original upTo A γ)
    (hA : A ∈ original) (hp : prime ≠ epsilon) :
    Treated original upTo A (γ.concat [prime]) := by
  have hpε : epsilon ∉ [prime] := by simpa using hp.symm
  cases h with
  | empty ho => exact absurd hA ho
  | led hne hx hnot =>
    rw [Alternative.concat_of_epsilon_not_mem hne hpε (by simp)]
    exact .led (List.not_mem_append hne hpε) hx hnot

theorem waiting_concat_prime {β : Alternative} (hβ : epsilon ∉ β) (hp : prime ≠ epsilon)
    (h : ∀ s ∈ β, s ∈ original ∨ s ∈ earlier) :
    Waiting original earlier prime (β.concat [prime]) := by
  have hpε : epsilon ∉ [prime] := by simpa using hp.symm
  rw [Alternative.concat_of_epsilon_not_mem hβ hpε (by simp)]
  exact .led (List.not_mem_append hβ hpε) (leads_append β h)

/-- A symbol of the given grammar can still be followed by a new one. -/
def weight (original : NameSet) (s : Symbol) : Nat := if s ∈ original then 2 else 1

/-- What is left to do from the `i`th nonterminal on. -/
def work (original : NameSet) (g : Grammar) (i : Nat) : Nat :=
  ((g.nonterminals.drop i).map (weight original)).sum

theorem weight_pos (original : NameSet) (s : Symbol) : 0 < weight original s := by
  unfold weight; split <;> omega

theorem work_of_getElem? (hA : g.nonterminals[i]? = some A) :
    work original g i =
      weight original A + ((g.nonterminals.drop (i + 1)).map (weight original)).sum := by
  obtain ⟨hi, rfl⟩ := List.getElem?_eq_some_iff.mp hA
  rw [work, List.drop_eq_getElem_cons hi, List.map_cons, List.sum_cons]

theorem work_insert_lt (hA : g.nonterminals[i]? = some A) (alternatives : List Alternative) :
    work original (g.insert A alternatives) (i + 1) < work original g i := by
  have hpos := weight_pos original A
  rw [work, nonterminals_insert_of_mem (List.mem_of_getElem? hA), work_of_getElem? hA]
  omega

/-- What a new nonterminal adds is less than what is done. -/
theorem work_splitOff_lt (hA : g.nonterminals[i]? = some A) (hAo : A ∈ original)
    (hpn : prime ∉ g.nonterminals) (hpo : prime ∉ original) (alternatives : List Alternative) :
    work original (g.splitOff A prime alternatives) (i + 1) < work original g i := by
  have hi : i + 1 ≤ g.nonterminals.length := (List.getElem?_eq_some_iff.mp hA).1
  have hwA : weight original A = 2 := if_pos hAo
  have hwp : weight original prime = 1 := if_neg hpo
  rw [work, nonterminals_splitOff alternatives (List.mem_of_getElem? hA) hpn,
    List.drop_append_of_le_length hi, List.map_append, List.sum_append, List.map_singleton,
    List.sum_singleton, work_of_getElem? hA, hwA, hwp]
  omega

namespace Ordered

theorem not_mem_take (hA : g.nonterminals[i]? = some A) : A ∉ g.nonterminals.take i := fun h =>
  (mem_take_of_getElem? hA A h).2 rfl

theorem epsilon_not_mem_take (h : Ordered original g taken i) (k : Nat) :
    epsilon ∉ g.nonterminals.take k := fun hmem =>
  h.workable.epsilon_not_mem (List.mem_of_mem_take hmem)

/-- The nonterminals before the `i`th, as the sweeps meet them. -/
theorem allTreated (h : Ordered original g taken i) :
    g.AllTreated original (g.nonterminals.take i) := by
  intro done B todo he δ hδ
  have hlen : done.length < (g.nonterminals.take i).length := by simp [he]
  have hB : (g.nonterminals.take i)[done.length]? = some B := by simp [he]
  have htake : (g.nonterminals.take i).take (done.length + 1) = done ++ [B] := by
    simp [he, List.take_append]
  have hi : done.length < i := by
    rw [List.length_take] at hlen
    omega
  rw [List.getElem?_take_of_lt hi] at hB
  rw [List.take_take, Nat.min_eq_left hi] at htake
  exact htake ▸ h.treated _ hi B hB δ hδ

/-- The alternatives settle, and no front is left to replace. -/
theorem exists_settle (h : Ordered original g taken i) :
    ∃ n alternatives, g.settle (g.nonterminals.take i) n (g.alternatives A) = .ok alternatives ∧
      [] ∉ alternatives ∧ ∀ α ∈ alternatives, ∀ s ∈ α.head?, s ∉ g.nonterminals.take i := by
  obtain ⟨n, alternatives, hs, hfront⟩ := Grammar.exists_settle h.allTreated (h.epsilon_not_mem_take i)
    fun α hα => (h.workable.known A α hα).1
  exact ⟨n, alternatives, hs, h.workable.tidy.nil_not_mem_of_settle hs, hfront⟩

theorem waiting_of_settle (h : Ordered original g taken i) (hA : g.nonterminals[i]? = some A) {n : Nat}
    (hs : g.settle (g.nonterminals.take i) n (g.alternatives A) = .ok alternatives) :
    ∀ α ∈ alternatives, Waiting original (g.nonterminals.take i) A α := by
  refine settle_induction (P := fun as => ∀ α ∈ as, Waiting original (g.nonterminals.take i) A α)
    (fun B hB as _ has => ?_) hs (h.waiting i (Nat.le_refl i) A hA)
  obtain ⟨done, todo, he⟩ := List.append_of_mem hB
  exact substitute_waiting hB (not_mem_take hA) (h.epsilon_not_mem_take i)
    (h.allTreated done B todo he) has

/-- Where no alternative begins with the nonterminal and goes on, its place is done. -/
theorem dropCycles (h : Ordered original g taken i) (hA : g.nonterminals[i]? = some A)
    (hw : Workable (g.insert A (otherAlternatives A alternatives)) taken)
    (ht : ∀ α ∈ otherAlternatives A alternatives, Treated original (g.nonterminals.take (i + 1)) A α) :
    Ordered original (g.insert A (otherAlternatives A alternatives)) taken (i + 1) := by
  have hn := nonterminals_insert_of_mem (List.mem_of_getElem? hA) (otherAlternatives A alternatives)
  refine ⟨hw, fun s => hn ▸ h.mem_taken s, fun k hk C hC α hα => ?_, fun k hk C hC α hα => ?_⟩
  · rw [hn] at hC ⊢
    rw [alternatives_insert] at hα
    obtain ⟨rfl, rfl⟩ | ⟨hne, hCA⟩ := same_place_or_not hA hC
    · exact ht α (by simpa using hα)
    · exact h.treated k (by omega) C hC α (by simpa [hCA] using hα)
  · rw [hn] at hC ⊢
    rw [alternatives_insert] at hα
    obtain ⟨rfl, -⟩ | ⟨-, hCA⟩ := same_place_or_not hA hC
    · omega
    · exact h.waiting k (by omega) C hC α (by simpa [hCA] using hα)

/-- The nonterminal that is split off takes the last place, and waits there. -/
theorem splitOff (h : Ordered original g taken i) (hA : g.nonterminals[i]? = some A)
    (hAo : A ∈ original) (hp : prime ∉ taken) (hpε : prime ≠ epsilon)
    (hw : Workable (g.splitOff A prime alternatives) (taken.insert prime))
    (ht : ∀ α ∈ otherAlternatives A alternatives, Treated original (g.nonterminals.take (i + 1)) A α)
    (htails : ∀ β ∈ recursiveTails A alternatives,
      epsilon ∉ β ∧ ∀ s ∈ β, s ∈ original ∨ s ∈ g.nonterminals) :
    Ordered original (g.splitOff A prime alternatives) (taken.insert prime) (i + 1) := by
  have hpo : prime ∉ original := fun ho => hp ((h.mem_taken prime).mpr (Or.inl ho))
  have hpn : prime ∉ g.nonterminals := fun hn => hp ((h.mem_taken prime).mpr (Or.inr hn))
  have hn := nonterminals_splitOff alternatives (List.mem_of_getElem? hA) hpn
  have hi : i < g.nonterminals.length := (List.getElem?_eq_some_iff.mp hA).1
  refine ⟨hw, fun s => ?_, fun k hk C hC α hα => ?_, fun k hk C hC α hα => ?_⟩
  · rw [hn, NameSet.mem_insert, h.mem_taken, List.mem_append, List.mem_singleton]
    exact or_comm.trans or_assoc
  · rw [hn, List.take_append_of_le_length (by omega : k + 1 ≤ _)]
    obtain ⟨hC, hα⟩ | ⟨rfl, -⟩ := splitOff_cases (List.mem_of_getElem? hA) hpn hC hα
    · obtain ⟨rfl, rfl⟩ | ⟨hne, hCA⟩ := same_place_or_not hA hC
      · rw [if_pos rfl] at hα
        obtain ⟨γ, hγ, rfl⟩ := List.mem_map.mp hα
        exact (ht γ hγ).concat_prime hAo hpε
      · rw [if_neg hCA] at hα
        exact h.treated k (by omega) C hC α hα
    · omega
  · rw [hn]
    obtain ⟨hC, hα⟩ | ⟨rfl, rfl, hα⟩ := splitOff_cases (List.mem_of_getElem? hA) hpn hC hα
    · rw [List.take_append_of_le_length (List.getElem?_eq_some_iff.mp hC).1.le]
      obtain ⟨rfl, -⟩ | ⟨-, hCA⟩ := same_place_or_not hA hC
      · omega
      · rw [if_neg hCA] at hα
        exact h.waiting k (by omega) C hC α hα
    · rw [List.take_append_of_le_length (Nat.le_refl _), List.take_length]
      rcases hα with ⟨β, hβ, rfl⟩ | rfl
      · exact waiting_concat_prime (htails β hβ).1 hpε (htails β hβ).2
      · exact .empty hpo

/-- The alternatives that do not begin with the nonterminal are in their final form. -/
theorem treated_of_settle (h : Ordered original g taken i) (hA : g.nonterminals[i]? = some A) {n : Nat}
    (hs : g.settle (g.nonterminals.take i) n (g.alternatives A) = .ok alternatives)
    (hfront : ∀ α ∈ alternatives, ∀ s ∈ α.head?, s ∉ g.nonterminals.take i) :
    ∀ α ∈ otherAlternatives A alternatives,
      Treated original (g.nonterminals.take (i + 1)) A α := by
  intro α hα
  obtain ⟨hα, hhead⟩ := mem_otherAlternatives_iff.mp hα
  rw [take_succ_of_getElem? hA]
  exact (h.waiting_of_settle hA hs α hα).treated (hfront α hα) hhead

/-- Only a symbol of the given grammar has tails, and they are made of names in use. -/
theorem tails_of_settle (h : Ordered original g taken i) (hA : g.nonterminals[i]? = some A) {n : Nat}
    (hs : g.settle (g.nonterminals.take i) n (g.alternatives A) = .ok alternatives) :
    ∀ β ∈ recursiveTails A alternatives,
      A ∈ original ∧ epsilon ∉ β ∧ ∀ s ∈ β, s ∈ original ∨ s ∈ g.nonterminals := by
  intro β hβ
  obtain ⟨hne, hα⟩ := mem_recursiveTails_iff.mp hβ
  obtain ⟨hAo, hβε⟩ := (h.waiting_of_settle hA hs _ hα).mem_original_of_tail (not_mem_take hA) hne
  refine ⟨hAo, hβε, fun s hsβ => (h.mem_taken s).mp ?_⟩
  have hknown := (h.workable.tidy.known_of_settle hs _ hα).2 s (List.mem_cons_of_mem _ hsβ)
  exact hknown.resolve_left (ne_of_mem_of_not_mem hsβ hβε)

/-- Treating a nonterminal brings the run one place further. -/
theorem removeImmediate (h : Ordered original g taken i) (hA : g.nonterminals[i]? = some A) {n : Nat}
    (hs : g.settle (g.nonterminals.take i) n (g.alternatives A) = .ok alternatives)
    (hfront : ∀ α ∈ alternatives, ∀ s ∈ α.head?, s ∉ g.nonterminals.take i) :
    Ordered original (g.removeImmediate taken A alternatives).1
        (g.removeImmediate taken A alternatives).2 (i + 1) ∧
      work original (g.removeImmediate taken A alternatives).1 (i + 1) < work original g i := by
  have hothers := h.workable.otherAlternatives_ne_nil hA hs
  have hw := (h.workable.removeImmediate hA hs).1
  have ht := h.treated_of_settle hA hs hfront
  by_cases htails : recursiveTails A alternatives = []
  · rw [removeImmediate_of_no_tails g taken htails hothers] at hw ⊢
    exact ⟨h.dropCycles hA hw ht, work_insert_lt hA _⟩
  · have htail := h.tails_of_settle hA hs
    obtain ⟨β, hβ⟩ := List.exists_mem_of_ne_nil _ htails
    have hAo := (htail β hβ).1
    have hp := prime_not_mem A taken
    have hpn : freshName A "'" taken.toList "" ∉ g.nonterminals := fun hn =>
      hp ((h.mem_taken _).mpr (Or.inr hn))
    have hpo : freshName A "'" taken.toList "" ∉ original := fun ho =>
      hp ((h.mem_taken _).mpr (Or.inl ho))
    rw [removeImmediate_of_tails g taken htails hothers] at hw ⊢
    refine ⟨?_, work_splitOff_lt hA hAo hpn hpo alternatives⟩
    exact h.splitOff hA hAo hp (prime_ne_epsilon A taken) hw ht fun β hβ => (htail β hβ).2

/-- A run from here comes to an end, with every nonterminal treated. -/
theorem finishes (h : Ordered original g taken i) :
    ∃ rounds n r taken', eliminateFrom rounds n i g taken = .ok r ∧
      ∃ j, r.nonterminals[j]? = none ∧ Ordered original r taken' j := by
  refine exists_eliminateFrom_of_measure (S := Ordered original) (work original) (fun h hA => ?_) h
  obtain ⟨m, alternatives, hs, hne, hfront⟩ := h.exists_settle
  exact ⟨m, alternatives, hs, hne, h.removeImmediate hA hs hfront⟩

end Ordered

/-! ## The result -/

/-- Where every nonterminal has been treated, fronts come later in the order. -/
theorem Ordered.leftRecursive_eq_nil (h : Ordered original g taken i) (hi : g.nonterminals[i]? = none) :
    g.leftRecursive = [] := by
  have ht : ∀ A, ∀ α ∈ g.alternatives A,
      Treated original (g.nonterminals.take (g.nonterminals.idxOf A + 1)) A α := by
    intro A α hα
    have hlt := List.idxOf_lt_length_iff.mpr (mem_nonterminals_of_mem_alternatives hα)
    have hle := List.getElem?_eq_none_iff.mp hi
    exact h.treated _ (by omega) A (by rw [List.getElem?_eq_getElem hlt, List.getElem_idxOf]) α hα
  have herasable : ∀ x ∈ original, x ∉ g.erasable := fun x hx =>
    not_mem_erasable (P := (· ∈ original)) (fun A hA α hα => by
      cases ht A α hα with
      | empty ho => exact absurd hA ho
      | @led x γ hne hx _ => exact ⟨x, by simp, fun he => hne (by simp [he]), hx⟩) hx
  refine Grammar.leftRecursive_eq_nil g.nonterminals.idxOf fun A B hB => ?_
  obtain ⟨α, hα, hB⟩ := mem_fronts_iff.mp hB
  cases ht A α hα with
  | empty => rw [frontsOf_cons_of_terminal h.workable.epsilon_not_mem] at hB; cases hB
  | @led x γ hne hx hnot =>
    by_cases hn : x ∈ g.nonterminals
    · rw [frontsOf_cons_of_not_erasable hn (herasable x hx), List.mem_singleton] at hB
      subst hB
      by_contra hle
      refine hnot (List.mem_take_iff_getElem.mpr ⟨g.nonterminals.idxOf B, ?_, List.getElem_idxOf _⟩)
      have := List.idxOf_lt_length_iff.mpr hn
      omega
    · rw [frontsOf_cons_of_terminal hn] at hB; cases hB

theorem ordered_symbols (hε : epsilon ∉ g.symbols) (hne : ∀ A, [] ∉ g.alternatives A)
    (hp : ∀ A ∈ g.nonterminals, ∃ w, w ∈ g.language A) : Ordered g.symbols g g.symbols 0 := by
  have hg : g.Canonical := canonical_iff.mpr
    ⟨fun h => hε (mem_symbols_of_mem_nonterminals h), fun A α hα =>
      Or.inr ⟨fun h => hne A (h ▸ hα), fun h => hε (mem_symbols_of_mem_alternatives hα h)⟩⟩
  refine ⟨workable_symbols hg hp, fun s => ?_, fun k hk => absurd hk (Nat.not_lt_zero k),
    fun k _ A _ α hα => .led (fun h => hε (mem_symbols_of_mem_alternatives hα h)) ?_⟩
  · exact ⟨Or.inl, fun h => h.elim id mem_symbols_of_mem_nonterminals⟩
  · cases α with
    | nil => exact absurd hα (hne A)
    | cons x γ => exact .original (mem_symbols_of_mem_alternatives hα List.mem_cons_self)

/-- For a grammar without `ε` where every nonterminal derives some word, the elimination comes to an
end, and nothing in its result is left recursive. -/
theorem eliminateLeftRecursion_leftRecursive (hε : epsilon ∉ g.symbols)
    (hne : ∀ A, [] ∉ g.alternatives A) (hp : ∀ A ∈ g.nonterminals, ∃ w, w ∈ g.language A) :
    ∃ r, (∃ n, ∀ rounds ≥ n, g.eliminateLeftRecursion rounds = .ok r) ∧ r.leftRecursive = [] := by
  obtain ⟨rounds, n, r, taken, hr, j, hj, hdone⟩ := (ordered_symbols hε hne hp).finishes
  refine ⟨r, ⟨max rounds n, fun bound hb => ?_⟩, hdone.leftRecursive_eq_nil hj⟩
  exact eliminateFrom_mono hr ((Nat.le_max_left _ _).trans hb) ((Nat.le_max_right _ _).trans hb)

/-- A grammar with direct and indirect recursion, unit cycles and a primed name. -/
def entwined : Grammar := .ofList
  [("A", [["B", "a"], ["A'"], ["A"]]), ("B", [["A", "b"], ["B"], ["B", "A", "A"], ["c"]]),
    ("A'", [["A", "A'"], ["d"]])]

theorem entwined_leftRecursive :
    epsilon ∉ entwined.symbols ∧ (∀ A, [] ∉ entwined.alternatives A) ∧
    (∀ A ∈ entwined.nonterminals, ∃ w, w ∈ entwined.language A) ∧
    ∃ r, (∃ n, ∀ rounds ≥ n, entwined.eliminateLeftRecursion rounds = .ok r) ∧
      r.leftRecursive = [] := by
  have hε : epsilon ∉ entwined.symbols := by decide
  have hne : ∀ A, [] ∉ entwined.alternatives A := fun A h =>
    absurd (mem_productions_iff.mpr h) (by
      have : ∀ p ∈ entwined.productions, p.2 ≠ [] := by decide
      exact fun hp => this _ hp rfl)
  have hword : ∀ a ∈ ["c", "d"], entwined.Yields [a] [a] := fun a ha =>
    .terminal (by revert a; decide) (by revert a; decide) .nil
  have hA' : entwined.Yields ["A'"] ["d"] :=
    .of_alternative (α := ["d"]) (by decide) (hword _ (by simp))
  have hA : entwined.Yields ["A"] ["d"] := .of_alternative (α := ["A'"]) (by decide) hA'
  have hB : entwined.Yields ["B"] ["c"] :=
    .of_alternative (α := ["c"]) (by decide) (hword _ (by simp))
  have hall : ∀ A ∈ entwined.nonterminals, A ≠ epsilon ∧ ∃ w, entwined.Yields [A] w := by
    change ∀ A ∈ ["A", "B", "A'"], _
    simp only [List.mem_cons, List.not_mem_nil, or_false, forall_eq_or_imp, forall_eq]
    exact ⟨⟨by decide, _, hA⟩, ⟨by decide, _, hB⟩, by decide, _, hA'⟩
  have hp : ∀ A ∈ entwined.nonterminals, ∃ w, w ∈ entwined.language A := fun A hmem =>
    have ⟨hA, w, hw⟩ := hall A hmem
    ⟨w, (mem_language_iff (by decide) hA).mpr hw⟩
  exact ⟨hε, hne, hp, eliminateLeftRecursion_leftRecursive hε hne hp⟩

end Grammar

end FormalLanguages
